/-
# Tokens of a YAML text

A text is cut into marks, names, tags and scalars. Lists and maps that are shown by indentation
begin and end without a mark, so tokens are put in for that. A scalar turns out to be a key only
when a colon follows it, so the tokens of a key are put in front of it then; a key that can be told
in this way stands on one line and has at most 1024 characters.

* `Token.scan` : the tokens of a text, or nothing when it cannot be cut.
-/
import TenantFleet.Yaml.Literal
import TenantFleet.Yaml.Tag

namespace TenantFleet.Yaml

/-- A piece of a text. -/
inductive Token
  /-- A directive in front of a document. -/
  | directive (d : Directive)
  /-- The mark before a document. -/
  | documentStart
  /-- The mark behind a document. -/
  | documentEnd
  /-- The start of a list that is shown by indentation. -/
  | listStart
  /-- The start of a map that is shown by indentation. -/
  | mapStart
  /-- The end of what is shown by indentation. -/
  | blockEnd
  /-- An opening bracket. -/
  | openList
  /-- A closing bracket. -/
  | closeList
  /-- An opening brace. -/
  | openMap
  /-- A closing brace. -/
  | closeMap
  /-- A comma between brackets or braces. -/
  | comma
  /-- The mark before an item of a list. -/
  | item
  /-- What stands before a key. -/
  | key
  /-- What stands before the value of a key. -/
  | value
  /-- The name of what the next node is called. -/
  | anchor (name : String)
  /-- The name of a node that stands elsewhere. -/
  | alias (name : String)
  /-- The kind of the next node. -/
  | tag (t : Tag)
  /-- A scalar. -/
  | scalar (text : String) (style : Style)
  deriving DecidableEq, Inhabited

/-- What may turn out to be a key. -/
structure KeyCandidate where
  /-- Whether nothing but a key can stand there. -/
  required : Bool
  /-- The number of tokens before it. -/
  position : Nat
  /-- Where it begins. -/
  start : Place
  deriving DecidableEq, Inhabited

/-- How far a text is cut. -/
structure Scanner where
  /-- The place that was reached. -/
  place : Place
  /-- The tokens so far. -/
  tokens : Array Token := #[]
  /-- The columns of the lists and maps that are shown by indentation, innermost first. -/
  indents : List Nat := []
  /-- Whether a key may begin here. -/
  keyAllowed : Bool := true
  /-- What may turn out to be a key here. -/
  candidate : Option KeyCandidate := none
  /-- What may turn out to be a key around the brackets and braces that are open, innermost
  first. -/
  outer : List (Option KeyCandidate) := []

namespace Scanner

/-! ## Small steps -/

/-- Whether a bracket or a brace is open. -/
def flow (s : Scanner) : Bool := !s.outer.isEmpty

/-- The column of the innermost list or map that is shown by indentation. -/
def indent (s : Scanner) : Option Nat := s.indents.head?

/-- The scanner with one more token. -/
def push (s : Scanner) (t : Token) : Scanner := { s with tokens := s.tokens.push t }

/-- The scanner with one more token, at the place behind it. -/
def behind (s : Scanner) (t : Token) (p : Place) : Scanner := { s.push t with place := p }

/-- The scanner with one more token of one character. -/
def mark (s : Scanner) (t : Token) : Scanner := s.behind t (s.place.forward 1)

/-- The scanner with a token put in at a position. -/
def insert (s : Scanner) (position : Nat) (t : Token) : Scanner :=
  { s with tokens := s.tokens.insertIdxIfInBounds position t }

/-- The scanner with a key allowed next, or not. -/
def allow (s : Scanner) (allowed : Bool) : Scanner := { s with keyAllowed := allowed }

/-- Opens a list or a map at a column that lies deeper than what is open; its first token has the
given position. -/
def roll (s : Scanner) (column position : Nat) (t : Token) : Scanner :=
  if !s.flow && s.indent.all (· < column) then
    { s.insert position t with indents := column :: s.indents }
  else s

/-- Closes the lists and maps that lie deeper than a column; all of them where there is none. -/
def unroll (s : Scanner) (column : Option Nat) : Scanner :=
  if s.flow then s
  else
    let kept := s.indents.dropWhile fun i => column.all (· < i)
    { s with
      indents := kept
      tokens := s.tokens ++ Array.replicate (s.indents.length - kept.length) .blockEnd }

/-! ## Keys -/

/-- Whether a key that began at a place would be too long here. -/
def expired (s : Scanner) (k : KeyCandidate) : Bool :=
  k.start.line < s.place.line || k.start.index + 1024 < s.place.index

/-- What is left of a candidate here. -/
def refresh? (s : Scanner) : Option KeyCandidate → Option (Option KeyCandidate)
  | none => some none
  | some k => if s.expired k then (if k.required then none else some none) else some (some k)

/-- The scanner without the candidates that would be too long. -/
def fresh? (s : Scanner) : Option Scanner := do
  return { s with candidate := ← s.refresh? s.candidate, outer := ← s.outer.mapM s.refresh? }

/-- The scanner without the candidate. -/
def dropKey? (s : Scanner) : Option Scanner :=
  if s.candidate.any (·.required) then none else some { s with candidate := none }

/-- The scanner with what comes next as the candidate, where a key is allowed. -/
def saveKey? (s : Scanner) : Option Scanner := do
  if s.keyAllowed then
    let required := !s.flow && s.indent = some s.place.column
    return { ← s.dropKey? with candidate := some ⟨required, s.tokens.size, s.place⟩ }
  else return s

/-! ## Between tokens -/

/-- The scanner behind blanks, comments and breaks. A break allows a key, a tab is a blank only
where no key is allowed, and a byte order mark may begin a line. -/
def skipGap : Nat → Scanner → Scanner
  | 0, s => s
  | fuel + 1, s =>
    let tabs := s.flow || !s.keyAllowed
    let p := s.place.pastMark.past fun c => c = ' ' || (tabs && c = '\t')
    let p := if p.rest.head? = some '#' then p.past (fun c => !isBreak c) else p
    if p.breakHere.isEmpty then { s with place := p }
    else skipGap fuel { s with place := p.pastBreak, keyAllowed := s.keyAllowed || !s.flow }

/-! ## Tokens -/

/-- What lies behind a document: nothing is open, and no key can begin. -/
def closed? (s : Scanner) : Option Scanner := do return (← (s.unroll none).dropKey?).allow false

/-- Opens a bracket or a brace. -/
def opens? (s : Scanner) (t : Token) : Option Scanner := do
  let s ← s.saveKey?
  return ({ s with outer := s.candidate :: s.outer, candidate := none }.allow true).mark t

/-- Closes a bracket or a brace. -/
def closes? (s : Scanner) (t : Token) : Option Scanner := do
  let s ← s.dropKey?
  let s :=
    match s.outer with
    | k :: outer => { s with candidate := k, outer := outer }
    | [] => s
  return (s.allow false).mark t

/-- The mark before an item. -/
def item? (s : Scanner) : Option Scanner := do
  if !s.flow && !s.keyAllowed then none
  else return ((← (s.roll s.place.column s.tokens.size .listStart).dropKey?).allow true).mark .item

/-- The mark before a key. -/
def key? (s : Scanner) : Option Scanner := do
  if !s.flow && !s.keyAllowed then none
  else return ((← (s.roll s.place.column s.tokens.size .mapStart).dropKey?).allow !s.flow).mark .key

/-- The mark before a value: what came before it is a key. -/
def value? (s : Scanner) : Option Scanner :=
  match s.candidate with
  | some k =>
    let s := (s.insert k.position .key).roll k.start.column k.position .mapStart
    some (({ s with candidate := none }.allow false).mark .value)
  | none =>
    if s.flow then some ((s.allow false).mark .value)
    else if s.keyAllowed then
      some (((s.roll s.place.column s.tokens.size .mapStart).allow true).mark .value)
    else none

/-- A token that can begin a key: it is made at the place that was reached. -/
def inKey? (s : Scanner) (make : Place → Option (Token × Place)) : Option Scanner := do
  let s ← s.saveKey?
  let (t, p) ← make s.place
  return (s.allow false).behind t p

/-- A scalar of a block. -/
def literal? (s : Scanner) (folded : Bool) : Option Scanner := do
  let s ← s.dropKey?
  let (text, p) ← Literal.scan? folded s.indent s.place
  return (s.allow true).behind (.scalar text (if folded then .folded else .literal)) p

/-- A plain scalar; behind a break a key is allowed. -/
def plain? (s : Scanner) : Option Scanner := do
  let s ← s.saveKey?
  let least := match s.indent with
    | some n => n + 1
    | none => 0
  let (text, p, broken) ← Scalar.plain? s.flow least s.place
  return (s.allow broken).behind (.scalar text .plain) p

/-- Whether a plain scalar can begin with the first of some characters. -/
def startsPlain (flow : Bool) : List Char → Bool
  | [] => false
  | c :: rest =>
    if c = '-' then !rest.head?.any isBlank
    else if c = '?' ∨ c = ':' then !flow && !atGap rest
    else
      !isGap c && c ∉ [',', '[', ']', '\x7b', '\x7d', '#', '&', '*', '!', '|', '>', '\'', '"', '%',
        '@', '\x60']

/-- The scanner behind the next token; the text does not end here. -/
def token? (s : Scanner) : Option Scanner :=
  let p := s.place
  match p.rest with
  | [] => none
  | c :: rest =>
    if p.column = 0 && c = '%' then do
      let s ← s.closed?
      let (d, p) ← Directive.scan? s.place
      return s.behind (.directive d) p
    else if p.atMarker '-' then do return (← s.closed?).behind .documentStart (p.forward 3)
    else if p.atMarker '.' then do return (← s.closed?).behind .documentEnd (p.forward 3)
    else if c = '[' then s.opens? .openList
    else if c = '\x7b' then s.opens? .openMap
    else if c = ']' then s.closes? .closeList
    else if c = '\x7d' then s.closes? .closeMap
    else if c = ',' then do return ((← s.dropKey?).allow true).mark .comma
    else if c = '-' && atGap rest then s.item?
    else if c = '?' && (s.flow || atGap rest) then s.key?
    else if c = ':' && (s.flow || atGap rest) then s.value?
    else if c = '*' then s.inKey? fun p => (Tag.name? p).map fun (n, p) => (.alias n, p)
    else if c = '&' then s.inKey? fun p => (Tag.name? p).map fun (n, p) => (.anchor n, p)
    else if c = '!' then s.inKey? fun p => (Tag.scan? s.flow p).map fun (t, p) => (.tag t, p)
    else if c = '|' && !s.flow then s.literal? false
    else if c = '>' && !s.flow then s.literal? true
    else if c = '\'' then
      s.inKey? fun p => (Scalar.quoted? true p).map fun (t, p) => (.scalar t .singleQuoted, p)
    else if c = '"' then
      s.inKey? fun p => (Scalar.quoted? false p).map fun (t, p) => (.scalar t .doubleQuoted, p)
    else if startsPlain s.flow p.rest then s.plain?
    else none

/-! ## Whole texts -/

/-- The scanner at the end of the text. -/
def finish? : Nat → Scanner → Option Scanner
  | 0, _ => none
  | fuel + 1, s => do
    let s ← (s.skipGap (s.place.rest.length + 1)).fresh?
    let s := s.unroll (some s.place.column)
    if s.place.rest.isEmpty then s.closed?
    else finish? fuel (← s.token?)

end Scanner

namespace Token

/-- The tokens of a text. -/
def scan (text : String) : Option (List Token) :=
  let cs := text.toList
  if cs.all allowed then
    (Scanner.finish? (cs.length + 1) { place := { rest := cs } }).map (·.tokens.toList)
  else none

end Token

end TenantFleet.Yaml
