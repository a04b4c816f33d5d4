/-
# Names, tags and directives

An anchor names a node, an alias refers to one, and a tag says of which kind a node is. Tags are
bytes, because they may be written with escapes. A directive in front of a document tells its
version, or makes up a handle that stands for the beginning of tags.

* `Tag.name?` : the name of an anchor or an alias;
* `Tag.scan?` : a tag;
* `Directive.scan?` : a directive.
-/
import TenantFleet.Yaml.Scalar

namespace TenantFleet.Yaml

/-! ## Tags -/

/-- What a tag says: bytes that are ASCII unless they were escaped. -/
abbrev TagBytes := List UInt8

/-- The bytes of ASCII characters. -/
def asciiBytes (cs : List Char) : TagBytes := cs.map fun c => c.toNat.toUInt8

/-- A tag as it is written: a handle and what follows it. -/
structure Tag where
  /-- The handle; empty when the tag is written out. -/
  handle : String
  /-- What follows the handle. -/
  suffix : TagBytes
  deriving DecidableEq, Inhabited

namespace Tag

/-- Whether a text ends or goes on with what can follow a name. -/
def endsName (cs : List Char) : Bool :=
  atGap cs || cs.head?.any (· ∈ ['?', ':', ',', ']', '\x7d', '%', '@', '\x60'])

/-- The name of the anchor or alias whose mark stands at a place, and the place behind it. -/
def name? (p : Place) : Option (String × Place) :=
  let p := p.forward 1
  let name := p.rest.takeWhile inName
  let last := p.forward name.length
  if name.isEmpty || !endsName last.rest then none else some (String.ofList name, last)

/-- Whether a character can stand in a tag; `whole` says whether the marks of lists may stand there
too. -/
def inTag (whole : Bool) (c : Char) : Bool :=
  inName c ||
    c ∈ [';', '/', '?', ':', '@', '&', '=', '+', '$', '.', '!', '~', '*', '\'', '(', ')'] ||
    (whole && (c = ',' || c = '[' || c = ']'))

/-- The byte that a percent sign and two hexadecimal digits stand for, and what follows. -/
def octet? : List Char → Option (UInt8 × List Char)
  | '%' :: a :: b :: rest => do
    let a ← Scalar.hexDigit? a
    let b ← Scalar.hexDigit? b
    return ((a * 16 + b).toUInt8, rest)
  | _ => none

/-- The number of bytes that follow the first byte of a character. -/
def following? (b : UInt8) : Option Nat :=
  if b < 0x80 then some 0
  else if 0xC0 ≤ b ∧ b < 0xE0 then some 1
  else if 0xE0 ≤ b ∧ b < 0xF0 then some 2
  else if 0xF0 ≤ b ∧ b < 0xF8 then some 3
  else none

/-- So many escaped bytes that follow a first one, and what comes after them. -/
def trailing? : Nat → List Char → Option (TagBytes × List Char)
  | 0, cs => some ([], cs)
  | n + 1, cs => do
    let (b, rest) ← octet? cs
    if 0x80 ≤ b ∧ b < 0xC0 then
      let (more, rest) ← trailing? n rest
      return (b :: more, rest)
    else none

/-- The bytes of the longest part of a tag at the head of a text, and what follows. -/
def bytes? (whole : Bool) : Nat → List Char → Option (TagBytes × List Char)
  | 0, _ => none
  | _ + 1, [] => some ([], [])
  | fuel + 1, c :: rest =>
    if c = '%' then do
      let (b, rest) ← octet? (c :: rest)
      let (bs, rest) ← trailing? (← following? b) rest
      let (more, rest) ← bytes? whole fuel rest
      return (b :: bs ++ more, rest)
    else if inTag whole c then do
      let (more, rest) ← bytes? whole fuel rest
      return (c.toNat.toUInt8 :: more, rest)
    else some ([], c :: rest)

/-- The part of a tag at a place and the place behind it. -/
def part? (whole : Bool) (p : Place) : Option (TagBytes × Place) := do
  let (bytes, rest) ← bytes? whole (p.rest.length + 1) p.rest
  return (bytes, p.forward (p.rest.length - rest.length))

/-- The part of a tag at a place, of at least one character. -/
def nonempty? (whole : Bool) (p : Place) : Option (TagBytes × Place) := do
  let (bytes, last) ← part? whole p
  if bytes.isEmpty then none else return (bytes, last)

/-- An exclamation mark with the name behind it and, if there is one, the exclamation mark that
makes it a handle. -/
def handleAt (p : Place) : List Char :=
  let name := '!' :: (p.rest.drop 1).takeWhile inName
  if (p.rest.drop name.length).head? = some '!' then name ++ ['!'] else name

/-- Whether a text is a handle with a name, or the one of two exclamation marks. -/
def isNamed (h : List Char) : Bool := 2 ≤ h.length && h.getLast? = some '!'

/-- The tag at a place and the place behind it: written out in angle brackets, or behind a
handle. -/
def written? (p : Place) : Option (Tag × Place) :=
  let h := handleAt p
  if (p.rest.drop 1).head? = some '<' then do
    let (bytes, p) ← nonempty? true (p.forward 2)
    if p.rest.head? = some '>' then return (⟨"", bytes⟩, p.forward 1) else none
  else if isNamed h then do
    let (bytes, p) ← nonempty? false (p.forward h.length)
    return (⟨String.ofList h, bytes⟩, p)
  else do
    let (bytes, p) ← part? false (p.forward 1)
    return (if bytes.isEmpty then ⟨"", asciiBytes ['!']⟩ else ⟨"!", bytes⟩, p)

/-- The tag at a place and the place behind it. Something has to separate it from what follows;
within brackets a comma does. -/
def scan? (flow : Bool) (p : Place) : Option (Tag × Place) := do
  let (tag, p) ← written? p
  if atGap p.rest || (flow && p.rest.head? = some ',') then return (tag, p) else none

end Tag

/-! ## Directives -/

/-- A directive. -/
inductive Directive
  /-- The version of the format. -/
  | version (major minor : Nat)
  /-- A handle and what it stands for. -/
  | handle (name : String) (stands : TagBytes)
  deriving DecidableEq, Inhabited

namespace Directive

/-- The number of at most nine digits at a place, and the place behind it. -/
def number? (p : Place) : Option (Nat × Place) :=
  let digits := p.rest.takeWhile Char.isDigit
  if digits.isEmpty || 9 < digits.length then none
  else some (digits.foldl (fun n c => n * 10 + (c.toNat - '0'.toNat)) 0, p.forward digits.length)

/-- The version at a place. -/
def version? (p : Place) : Option (Directive × Place) := do
  let (major, p) ← number? (p.past isBlank)
  if p.rest.head? = some '.' then
    let (minor, p) ← number? (p.forward 1)
    return (.version major minor, p)
  else none

/-- The handle at a place and what it stands for. -/
def handle? (p : Place) : Option (Directive × Place) := do
  let p := p.past isBlank
  let h := Tag.handleAt p
  let next := p.forward h.length
  if p.rest.head? = some '!' && (h.length = 1 || h.getLast? = some '!') &&
      next.rest.head?.any isBlank then
    let (bytes, last) ← Tag.nonempty? true (next.past isBlank)
    if atGap last.rest then return (.handle (String.ofList h) bytes, last) else none
  else none

/-- The directive at a place and the place behind its line. -/
def scan? (p : Place) : Option (Directive × Place) := do
  let p := p.forward 1
  let name := p.rest.takeWhile inName
  let p := p.forward name.length
  if !atGap p.rest then none
  else
    let (d, p) ←
      if name = "YAML".toList then version? p
      else if name = "TAG".toList then handle? p
      else none
    return (d, (← p.lineEnd?).pastBreak)

end Directive

end TenantFleet.Yaml
