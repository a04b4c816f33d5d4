/-
# Reading values from YAML documents

A reader turns a node into a value or refuses it. It follows aliases, though only so often, and goes
only so deep. An empty plain scalar is also an empty list and an empty map. Records are read from
maps, where a known key may not be written twice; what stands under an unknown key is not looked at.

* `Reader.text`, `Reader.bool`, `Reader.list`, `Reader.texts` : plain values;
* `Reader.required`, `Reader.optional` : one entry of a record;
* `Document.read?` : the value of a document.
-/
import TenantFleet.Data.Dict
import TenantFleet.Text.Utf8
import TenantFleet.Yaml.Node
import TenantFleet.Yaml.Plain

namespace TenantFleet.Yaml

/-- What a reader needs besides a node: the document, and how deep it may still go. -/
structure Source where
  /-- The document. -/
  document : Document
  /-- How many lists and maps it may still go into. -/
  depth : Nat
  deriving Inhabited

/-- What is read while aliases are counted: the state is how many of them may still be followed. -/
abbrev Reading (α : Type) := StateT Nat Option α

/-- A reader of nodes. -/
abbrev Reader (α : Type) := Source → Node → Reading α

namespace Reader

variable {α : Type}

/-! ## Aliases and depth -/

/-- The node that a node stands for. -/
def resolve (s : Source) : Node → Reading Node
  | .alias number => do
    match ← get, s.document.target? number with
    | left + 1, some n => do
      set left
      return n
    | _, _ => failure
  | n => return n

/-- Reads what is inside of a list or a map. -/
def inside (s : Source) (read : Source → Reading α) : Reading α :=
  match s.depth with
  | 0 => failure
  | depth + 1 => read { s with depth := depth }

/-! ## Kinds -/

/-- The tag of a kind that the format knows. -/
def known (kind : String) : TagBytes := asciiBytes ("tag:yaml.org,2002:" ++ kind).toList

/-- The kind that a tag gives which the format does not know. -/
def ownKind? : Option TagBytes → Option String
  | some (0x21 :: rest) => (Utf8.decode rest).toOption
  | _ => none

/-! ## Scalars -/

/-- A text, which every scalar is. -/
def text : Reader String := fun s n => do
  match ← resolve s n with
  | .scalar _ _ t => return t
  | _ => failure

/-- A truth value. -/
def bool : Reader Bool := fun s n => do
  match ← resolve s n with
  | .scalar tag style t =>
    if style = .plain || (style = .literal && tag = some (known "bool")) then Plain.bool? t
    else failure
  | _ => failure

/-- A value, or null. -/
def nullable (read : Reader α) : Reader (Option α) := fun s n => do
  let n ← resolve s n
  match n with
  | .scalar none .plain t =>
    if t.isEmpty || Plain.isNull t then return none else return some (← read s n)
  | .scalar (some tag) .plain t =>
    if tag = known "null" then (if Plain.isNull t then return none else failure)
    else return some (← read s n)
  | _ => return some (← read s n)

/-- One of some words, as a text or as a tag in front of nothing. -/
def word (words : List String) : Reader String := fun s n => do
  match ← resolve s n with
  | .scalar tag style t =>
    match ownKind? tag with
    | some w =>
      if w ∈ words && style = .plain && (t.isEmpty || Plain.isNull t) then return w else failure
    | none => if t ∈ words then return t else failure
  | _ => failure

/-! ## Lists and maps -/

/-- A list of values. -/
def list (read : Reader α) : Reader (List α) := fun s n => do
  match ← resolve s n with
  | .list _ items => inside s fun s => items.mapM (read s)
  | .scalar _ .plain "" => return []
  | _ => failure

/-- The entries of a map, with what is needed to read them. -/
def entries : Reader (Source × List (Node × Node)) := fun s n => do
  match ← resolve s n with
  | .map _ es => inside s fun s => return (s, es)
  | .scalar _ .plain "" => return (s, [])
  | _ => failure

/-- A map of texts; of two entries with one key the later one stays. -/
def texts : Reader (Dict String) := fun s n => do
  let (s, es) ← entries s n
  return Dict.ofList (← es.mapM fun (k, v) => do return (← text s k, ← text s v))

/-- The entries of a record by their keys. -/
structure Record where
  /-- What is needed to read them. -/
  source : Source
  /-- The keys and the nodes under them. -/
  members : List (String × Node)
  deriving Inhabited

/-- A record with the given keys, none of which may be written twice. -/
def record (keys : List String) : Reader Record := fun s n => do
  let (s, es) ← entries s n
  let ms ← es.mapM fun (k, v) => do return (← text s k, v)
  if keys.all fun k => ms.countP (fun m => m.1 = k) ≤ 1 then return ⟨s, ms⟩ else failure

/-- An entry that may be missing. -/
def present? (read : Reader α) (r : Record) (key : String) : Reading (Option α) :=
  (r.members.lookup key).mapM (read r.source)

/-- An entry that must be there. -/
def required (read : Reader α) (r : Record) (key : String) : Reading α := do
  match ← present? read r key with
  | some a => return a
  | none => failure

/-- An entry that may be missing or null. -/
def optional (read : Reader α) (r : Record) (key : String) : Reading (Option α) := do
  return (← present? (nullable read) r key).join

/-- Checks that an entry, if it is there and not null, can be read. -/
def check (read : Reader α) (r : Record) (key : String) : Reading Unit := do
  let _ ← optional read r key

/-! ## Any values -/

/-- Whether a scalar has a value: one with a tag that the format knows has to be written as the tag
says, an integer must not be too large, and no scalar is of a kind of its own. -/
def validScalar (tag : Option TagBytes) (style : Style) (t : String) : Bool :=
  if (ownKind? tag).isSome then false
  else if tag = some (known "bool") then (Plain.bool? t).isSome
  else if tag = some (known "int") then (Plain.int? t).any Plain.fits
  else if tag = some (known "float") then Plain.isReal t
  else if tag = some (known "null") then Plain.isNull t
  else if style = .plain && tag.all (·.head? = some 0x21) then !Plain.tooLarge t
  else true

/-- Checks that a node of a document has a value, going into at most `depth` lists and maps. -/
def validFrom (d : Document) : (depth : Nat) → Node → Reading Unit
  | depth, n => do
    match ← resolve ⟨d, depth⟩ n, depth with
    | .scalar tag style t, _ => if validScalar tag style t then return else failure
    | .list tag items, depth + 1 =>
      if (ownKind? tag).isSome then failure else items.forM (validFrom d depth)
    | .map tag es, depth + 1 =>
      if (ownKind? tag).isSome then failure
      else es.forM fun (k, v) => do
        let _ ← text ⟨d, depth⟩ k
        validFrom d depth v
    | _, _ => failure

/-- Any value, which is only checked. -/
def any : Reader Unit := fun s n => validFrom s.document s.depth n

end Reader

/-- How many lists and maps a reader may go into. -/
def maxDepth : Nat := 128

/-- How many aliases a reader may follow for every step through a document. -/
def maxFollowed : Nat := 100

/-- The value of a document. -/
def Document.read? {α : Type} (read : Reader α) (d : Document) : Option α :=
  (read ⟨d, maxDepth⟩ d.root).run' (maxFollowed * d.root.steps)

end TenantFleet.Yaml
