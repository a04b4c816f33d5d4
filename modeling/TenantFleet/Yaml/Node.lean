/-
# Nodes of a YAML text

A document is a node: a scalar, a list, a map, or an alias that stands for a node elsewhere. Nodes
are built from tokens; where a node is missing, an empty plain scalar stands. Anchors are numbered
as they come, and a name that is given again keeps its place in the count, so two anchors can have
one number; the later one counts.

* `Document.ofTokens?` : the document that tokens spell;
* `Document.parse?` : the document of a text, which holds at most one.
-/
import TenantFleet.Yaml.Token

namespace TenantFleet.Yaml

/-! ## Nodes -/

/-- A part of a document. -/
inductive Node
  /-- A scalar. -/
  | scalar (tag : Option TagBytes) (style : Style) (text : String)
  /-- A list. -/
  | list (tag : Option TagBytes) (items : List Node)
  /-- A map. -/
  | map (tag : Option TagBytes) (entries : List (Node × Node))
  /-- A node that stands where the anchor of a number is. -/
  | alias (number : Nat)
  deriving Inhabited

namespace Node

/-- What stands where nothing is written. -/
def nothing : Node := .scalar none .plain ""

mutual

/-- How many steps a reader takes through a node. -/
def steps : Node → Nat
  | .scalar _ _ _ | .alias _ => 1
  | .list _ items => itemSteps items + 2
  | .map _ entries => entrySteps entries + 2

/-- How many steps a reader takes through nodes. -/
def itemSteps : List Node → Nat
  | [] => 0
  | n :: rest => steps n + itemSteps rest

/-- How many steps a reader takes through keys and values. -/
def entrySteps : List (Node × Node) → Nat
  | [] => 0
  | (k, v) :: rest => steps k + steps v + entrySteps rest

end

end Node

/-- A document. -/
structure Document where
  /-- The node that holds all others. -/
  root : Node := .nothing
  /-- Which of the nodes with an anchor each number means, the latest first. -/
  targets : List (Nat × Nat) := []
  /-- The nodes with an anchor. -/
  anchored : List (Nat × Node) := []
  deriving Inhabited

/-- The node that the anchor of a number stands at. -/
def Document.target? (d : Document) (number : Nat) : Option Node :=
  (d.targets.lookup number).bind fun n => d.anchored.lookup n

/-! ## Building -/

/-- How far nodes are built. -/
structure Builder where
  /-- The tokens that are left. -/
  tokens : List Token
  /-- What handles stand for. -/
  handles : List (String × TagBytes) := []
  /-- The numbers of the names of anchors. -/
  names : List (String × Nat) := []
  /-- Which of the nodes with an anchor each number means, the latest first. -/
  targets : List (Nat × Nat) := []
  /-- The nodes with an anchor. -/
  anchored : List (Nat × Node) := []
  deriving Inhabited

/-- Something that is built from tokens. -/
abbrev Building (α : Type) := StateT Builder Option α

namespace Building

/-- The next token, if there is one. -/
def next? : Building (Option Token) := do return (← get).tokens.head?

/-- Whether the next token is one of some. -/
def nextIn (ts : List Token) : Building Bool := do return (← next?).any (· ∈ ts)

/-- Goes on behind the next token. -/
def skip : Building Unit := modify fun b => { b with tokens := b.tokens.tail }

/-- Goes on behind a token that has to come next. -/
def expect (t : Token) : Building Unit := do
  if ← nextIn [t] then skip else failure

/-- Goes on behind a token if it comes next. -/
def accept (t : Token) : Building Bool := do
  let found ← nextIn [t]
  if found then skip
  return found

/-! ## Anchors and tags -/

/-- Gives a node that is about to be built a name; the answer tells it from the others. -/
def announce (name : String) : Building Nat := do
  let b ← get
  let number := b.names.length
  let serial := b.targets.length
  set { b with
    names := (name, number) :: b.names.filter fun n => n.1 ≠ name
    targets := (number, serial) :: b.targets }
  return serial

/-- Keeps a node that was announced. -/
def keep (serial : Option Nat) (n : Node) : Building Node := do
  match serial with
  | some s => modify fun b => { b with anchored := (s, n) :: b.anchored }
  | none => pure ()
  return n

/-- What a tag stands for; its handle has to be known. -/
def resolve (t : Tag) : Building TagBytes := do
  if t.handle.isEmpty then return t.suffix
  else
    match (← get).handles.lookup t.handle with
    | some stands => return stands ++ t.suffix
    | none => failure

/-- The anchor in front of a node, if it comes next. -/
def anchor? : Building (Option String) := do
  match ← next? with
  | some (.anchor name) => do
    skip
    return some name
  | _ => return none

/-- The tag in front of a node, if it comes next. -/
def tag? : Building (Option Tag) := do
  match ← next? with
  | some (.tag t) => do
    skip
    return some t
  | _ => return none

/-- The anchor and the tag in front of a node, in either order. -/
def properties : Building (Option String × Option TagBytes) := do
  let anchor ← anchor?
  let tag ← tag?
  let anchor ← if anchor.isNone && tag.isSome then anchor? else pure anchor
  match tag with
  | some t => return (anchor, some (← resolve t))
  | none => return (anchor, none)

/-- The tag of a scalar; the one that says nothing goes. -/
def ofScalar (tag : Option TagBytes) : Option TagBytes := tag.filter (· ≠ asciiBytes ['!'])

/-! ## Grammar -/

mutual

/-- The node that comes next. `block` allows what is shown by indentation, and `flat` a list whose
items are not indented. -/
def node : Nat → (block flat : Bool) → Building Node
  | 0, _, _ => failure
  | fuel + 1, block, flat => do
    match ← next? with
    | some (.alias name) => do
      skip
      match (← get).names.lookup name with
      | some number => return .alias number
      | none => failure
    | _ => do
      let (name, tag) ← properties
      let serial ← name.mapM announce
      let missing : Building Node :=
        if name.isNone && tag.isNone then failure else keep serial (.scalar tag .plain "")
      match ← next? with
      | some (.scalar text style) => do
        skip
        keep serial (.scalar (ofScalar tag) style text)
      | some .openList => do
        skip
        keep serial (.list tag (← flowItems fuel true))
      | some .openMap => do
        skip
        keep serial (.map tag (← flowEntries fuel true))
      | some .item =>
        if flat then do keep serial (.list tag (← flatItems fuel)) else missing
      | some .listStart =>
        if block then do
          skip
          keep serial (.list tag (← blockItems fuel))
        else missing
      | some .mapStart =>
        if block then do
          skip
          keep serial (.map tag (← blockEntries fuel))
        else missing
      | _ => missing

/-- The node that comes next, or nothing before one of some tokens. -/
def nodeUnless : Nat → (stops : List Token) → (block flat : Bool) → Building Node
  | 0, _, _, _ => failure
  | fuel + 1, stops, block, flat => do
    if ← nextIn stops then return .nothing else node fuel block flat

/-- The items of an indented list up to its end. -/
def blockItems : Nat → Building (List Node)
  | 0 => failure
  | fuel + 1 => do
    if ← accept .blockEnd then return []
    else
      expect .item
      let x ← nodeUnless fuel [.item, .blockEnd] true false
      return x :: (← blockItems fuel)

/-- The items of a list that is not indented. -/
def flatItems : Nat → Building (List Node)
  | 0 => failure
  | fuel + 1 => do
    if ← accept .item then
      let x ← nodeUnless fuel [.item, .key, .value, .blockEnd] true false
      return x :: (← flatItems fuel)
    else return []

/-- The keys and values of an indented map up to its end. -/
def blockEntries : Nat → Building (List (Node × Node))
  | 0 => failure
  | fuel + 1 => do
    if ← accept .blockEnd then return []
    else
      expect .key
      let k ← nodeUnless fuel [.key, .value, .blockEnd] true true
      let v ←
        if ← accept .value then nodeUnless fuel [.key, .value, .blockEnd] true true
        else pure .nothing
      return (k, v) :: (← blockEntries fuel)

/-- The items of a list up to its closing bracket. A key in it begins a map of one entry; a key
without a node takes the token that follows it along. -/
def flowItems : Nat → (first : Bool) → Building (List Node)
  | 0, _ => failure
  | fuel + 1, first => do
    if ← accept .closeList then return []
    else
      if !first then expect .comma
      if ← accept .closeList then return []
      else if ← accept .key then
        let k ←
          if ← nextIn [.value, .comma, .closeList] then
            skip
            pure .nothing
          else node fuel false false
        let v ←
          if ← accept .value then nodeUnless fuel [.comma, .closeList] false false
          else pure .nothing
        return .map none [(k, v)] :: (← flowItems fuel false)
      else
        let x ← node fuel false false
        return x :: (← flowItems fuel false)

/-- The keys and values of a map up to its closing brace. -/
def flowEntries : Nat → (first : Bool) → Building (List (Node × Node))
  | 0, _ => failure
  | fuel + 1, first => do
    if ← accept .closeMap then return []
    else
      if !first then expect .comma
      if ← accept .closeMap then return []
      else if ← accept .key then
        let k ← nodeUnless fuel [.value, .comma, .closeMap] false false
        let v ←
          if ← accept .value then nodeUnless fuel [.comma, .closeMap] false false
          else pure .nothing
        return (k, v) :: (← flowEntries fuel false)
      else
        let k ← node fuel false false
        return (k, .nothing) :: (← flowEntries fuel false)

end

/-! ## Documents -/

/-- What the handles stand for that need no directive. -/
def knownHandles : List (String × TagBytes) :=
  [("!", asciiBytes ['!']), ("!!", asciiBytes "tag:yaml.org,2002:".toList)]

/-- The directives in front of a document, with the handles that are made up so far: the version is
told once and is 1.1 or 1.2, and each handle is made up once. -/
def directives : Nat → (told : Bool) → (made : List (String × TagBytes)) →
    Building (List (String × TagBytes))
  | 0, _, _ => failure
  | fuel + 1, told, made => do
    match ← next? with
    | some (.directive (.version major minor)) =>
      if told || major ≠ 1 || (minor ≠ 1 && minor ≠ 2) then failure
      else
        skip
        directives fuel true made
    | some (.directive (.handle name stands)) =>
      if made.any (·.1 = name) then failure
      else
        skip
        directives fuel told ((name, stands) :: made)
    | _ => return made

/-- Whether a token belongs to what stands around documents. -/
def isFrame : Option Token → Bool
  | some (.directive _) | some .documentStart | some .documentEnd | none => true
  | _ => false

/-- The node of the only document; nothing where there is none. -/
def document (fuel : Nat) : Building Node := do
  let first ← next?
  let root ←
    match first with
    | none => return .nothing
    | some (.directive _) | some .documentStart => do
      let made ← directives fuel false []
      expect .documentStart
      modify fun b => { b with handles := made ++ knownHandles }
      if isFrame (← next?) then pure .nothing else node fuel true false
    | some _ => do
      modify fun b => { b with handles := knownHandles }
      node fuel true false
  return root

/-- The node of the only document, behind which nothing else comes but marks of its end. -/
def whole (fuel : Nat) : Building Node := do
  let root ← document fuel
  if (← get).tokens.all (· = .documentEnd) then return root else failure

end Building

namespace Document

/-- The document that tokens spell. -/
def ofTokens? (tokens : List Token) : Option Document := do
  let (root, b) ← (Building.whole (3 * tokens.length + 3)).run { tokens := tokens }
  return { root := root, targets := b.targets, anchored := b.anchored }

/-- The document of a text. -/
def parse? (text : String) : Option Document := (Token.scan text).bind ofTokens?

end Document

end TenantFleet.Yaml
