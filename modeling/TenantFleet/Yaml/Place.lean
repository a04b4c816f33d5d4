/-
# Places in a YAML text

The format knows two blanks, five line breaks and a range of characters outside of which nothing may
stand. A place is what still follows of a text, with the line and the column where it begins,
because indentation counts.

* `Yaml.allowed` : the characters of the format;
* `Place.forward` : the place that lies so many characters further on;
* `Place.atMarker` : whether a line begins with the mark of a document.
-/

namespace TenantFleet.Yaml

/-! ## Characters -/

/-- Whether a character ends a line. -/
def isBreak (c : Char) : Bool :=
  c = '\n' || c = '\r' || c = '\u0085' || c = '\u2028' || c = '\u2029'

/-- Whether a character is a blank. -/
def isBlank (c : Char) : Bool := c = ' ' || c = '\t'

/-- Whether a character separates words. -/
def isGap (c : Char) : Bool := isBlank c || isBreak c

/-- Whether a character can stand in a name. -/
def inName (c : Char) : Bool := c.isAlphanum || c = '_' || c = '-'

/-- Whether a character may stand in a text. -/
def allowed (c : Char) : Bool :=
  let n := c.toNat
  n = 0x09 || n = 0x0A || n = 0x0D || (0x20 ≤ n && n ≤ 0x7E) || n = 0x85 ||
    (0xA0 ≤ n && n ≤ 0xD7FF) || (0xE000 ≤ n && n ≤ 0xFFFD) || 0x10000 ≤ n

/-- The mark that may stand in front of a line to tell the encoding. -/
def byteOrderMark : Char := '\uFEFF'

/-- Whether a text ends or goes on with a blank or a break. -/
def atGap : List Char → Bool
  | [] => true
  | c :: _ => isGap c

/-- Whether a text ends or goes on with a break. -/
def atLineEnd : List Char → Bool
  | [] => true
  | c :: _ => isBreak c

/-- The character that a break stands for in a value: most breaks stand for a line feed. -/
def breakText (c : Char) : Char :=
  if c = '\u2028' ∨ c = '\u2029' then c else '\n'

/-! ## Places -/

/-- A place in a text. -/
structure Place where
  /-- What follows. -/
  rest : List Char
  /-- The number of characters before it. -/
  index : Nat := 0
  /-- The number of lines before it. -/
  line : Nat := 0
  /-- The number of characters before it in its line. -/
  column : Nat := 0
  deriving DecidableEq, Inhabited

namespace Place

/-- The line and the column behind some characters; a carriage return and a line feed are one
break. -/
def passed (line column : Nat) : List Char → Nat × Nat
  | [] => (line, column)
  | '\r' :: '\n' :: rest => passed (line + 1) 0 rest
  | c :: rest => if isBreak c then passed (line + 1) 0 rest else passed line (column + 1) rest

/-- The place that lies `n` characters further on. -/
def forward (n : Nat) (p : Place) : Place :=
  let (line, column) := passed p.line p.column (p.rest.take n)
  ⟨p.rest.drop n, p.index + n, line, column⟩

/-- No characters lead nowhere else. -/
@[simp] theorem forward_zero (p : Place) : p.forward 0 = p := by
  simp [forward, passed]

/-- What follows a place that lies further on. -/
@[simp] theorem rest_forward (n : Nat) (p : Place) : (p.forward n).rest = p.rest.drop n := rfl

/-- The place behind the characters of a class. -/
def past (f : Char → Bool) (p : Place) : Place := p.forward (p.rest.takeWhile f).length

/-- The place behind the byte order mark that a line begins with. -/
def pastMark (p : Place) : Place :=
  if p.column = 0 && p.rest.head? = some byteOrderMark then p.forward 1 else p

/-- The place behind the break that a line ends with. -/
def pastBreak (p : Place) : Place :=
  match p.rest with
  | '\r' :: '\n' :: _ => p.forward 2
  | c :: _ => if isBreak c then p.forward 1 else p
  | [] => p

/-- The character for the break that a line ends with. -/
def breakHere (p : Place) : List Char :=
  match p.rest with
  | c :: _ => if isBreak c then [breakText c] else []
  | [] => []

/-- Whether a line begins with three times the same character and nothing more in its word. -/
def atMarker (c : Char) (p : Place) : Bool :=
  p.column = 0 &&
    match p.rest with
    | x :: y :: z :: rest => x = c && y = c && z = c && atGap rest
    | _ => false

/-- Whether a document begins or ends. -/
def atBoundary (p : Place) : Bool := p.atMarker '-' || p.atMarker '.'

/-- The end of the line behind blanks and a comment; there may be nothing else. -/
def lineEnd? (p : Place) : Option Place :=
  let p := p.past isBlank
  let p := if p.rest.head? = some '#' then p.past (fun c => !isBreak c) else p
  if atLineEnd p.rest then some p else none

end Place

end TenantFleet.Yaml
