/-
# Tokens of a JSON text

The lexer cuts a text into punctuation, literals, numbers and texts and drops the blanks between
them. Two texts with the same tokens are read as the same document. A number that is too large and a
text with half of a surrogate pair have the form of a token but no value.

* `Json.Token.scan` : the tokens of a text, or nothing when it has a part that is none.
-/
import TenantFleet.Json.Basic

namespace TenantFleet.Json

/-- A piece of a JSON text. -/
inductive Token
  | openObject
  | closeObject
  | openList
  | closeList
  | comma
  | colon
  | null
  | bool (b : Bool)
  | num (n : Option Number)
  | str (s : Option String)
  deriving DecidableEq, Inhabited

namespace Token

/-! ## Blanks and digits -/

/-- The four blank characters of the format. -/
def isBlank (c : Char) : Bool := c = ' ' || c = '\t' || c = '\n' || c = '\r'

/-- The value of a decimal digit. -/
def digit (c : Char) : Nat := c.toNat - '0'.toNat

/-- The value of a hexadecimal digit. -/
def hexDigit? (c : Char) : Option Nat :=
  if '0' ≤ c ∧ c ≤ '9' then some (c.toNat - '0'.toNat)
  else if 'a' ≤ c ∧ c ≤ 'f' then some (c.toNat - 'a'.toNat + 10)
  else if 'A' ≤ c ∧ c ≤ 'F' then some (c.toNat - 'A'.toNat + 10)
  else none

/-! ## Texts -/

/-- The unit named by four hexadecimal digits, and what follows. -/
def unit? : List Char → Option (Nat × List Char)
  | a :: b :: c :: d :: rest => do
    let a ← hexDigit? a
    let b ← hexDigit? b
    let c ← hexDigit? c
    let d ← hexDigit? d
    return (((a * 16 + b) * 16 + c) * 16 + d, rest)
  | _ => none

/-- A piece of a text between quotes: a character, or half of a surrogate pair. -/
inductive Piece
  | char (c : Char)
  | half (u : Nat)
  deriving DecidableEq, Inhabited

/-- The piece that a unit stands for. -/
def Piece.ofUnit (u : Nat) : Piece :=
  if 0xD800 ≤ u ∧ u ≤ 0xDFFF then .half u else .char (Char.ofNat u)

/-- The characters of a list of pieces, when its halves come in pairs. -/
def characters? : List Piece → Option (List Char)
  | [] => some []
  | .char c :: rest => (characters? rest).map (c :: ·)
  | .half u :: .half l :: rest =>
    if u ≤ 0xDBFF ∧ 0xDC00 ≤ l then
      (characters? rest).map (Char.ofNat (0x10000 + (u - 0xD800) * 0x400 + (l - 0xDC00)) :: ·)
    else none
  | .half _ :: _ => none

/-- Characters are read back from their pieces. -/
@[simp] theorem characters?_map_char (cs : List Char) :
    characters? (cs.map .char) = some cs := by
  induction cs with
  | nil => rfl
  | cons c rest ih => simp [characters?, ih]

/-- The pieces up to the closing quote, and what follows it. -/
def quoted? : Nat → List Char → Option (List Piece × List Char)
  | 0, _ => none
  | _ + 1, [] => none
  | _ + 1, '"' :: rest => some ([], rest)
  | fuel + 1, '\\' :: c :: rest => do
    let plain (x : Char) : Option (List Piece × List Char) := do
      let (s, rest') ← quoted? fuel rest
      return (.char x :: s, rest')
    match c with
    | '"' => plain '"'
    | '\\' => plain '\\'
    | '/' => plain '/'
    | 'b' => plain '\x08'
    | 'f' => plain '\x0c'
    | 'n' => plain '\n'
    | 'r' => plain '\r'
    | 't' => plain '\t'
    | 'u' =>
      let (u, rest') ← unit? rest
      let (s, rest'') ← quoted? fuel rest'
      return (.ofUnit u :: s, rest'')
    | _ => none
  | fuel + 1, c :: rest =>
    if c.toNat < 0x20 || c = '\\' then none
    else do
      let (s, rest') ← quoted? fuel rest
      return (.char c :: s, rest')

/-! ## Numbers -/

/-- The largest unsigned integer of 64 bits. -/
def maxUnsigned : Nat := Nat.pow 2 64 - 1

/-- The largest power of ten that is told from overflow. -/
def maxPower : Nat := Nat.pow 2 31 - 1

/-- The digits of a number as far as they fit 64 bits, and how many were left out. -/
def significand (acc : Nat) (dropped : Nat) : List Char → Nat × Nat
  | [] => (acc, dropped)
  | c :: rest =>
    if dropped = 0 ∧ acc * 10 + digit c ≤ maxUnsigned then significand (acc * 10 + digit c) 0 rest
    else significand acc (dropped + 1) rest

/-- The value of a list of digits. -/
def natOf (ds : List Char) : Nat := ds.foldl (fun n c => n * 10 + digit c) 0

/-- The parts of a number: sign, digits before the point, digits after it, power of ten. -/
structure Parts where
  /-- Whether there is a minus sign. -/
  negative : Bool
  /-- The digits before the point. -/
  whole : List Char
  /-- The digits after the point, if there is one. -/
  fraction : Option (List Char)
  /-- The sign and the digits of the power of ten, if there is one. -/
  power : Option (Bool × List Char)

/-- The number with the given parts; nothing when it is too large. -/
def Parts.value? (p : Parts) : Option Number :=
  let (m, dropped) := significand 0 0 p.whole
  match p.fraction, p.power, dropped with
  | none, none, 0 =>
    if p.negative then
      if m = 0 then some (.real (.zero true))
      else if m ≤ Nat.pow 2 63 then some (.int (-(m : Int)))
      else (Binary64.ofDecimal true m 0).map .real
    else some (.int m)
  | _, _, _ =>
    let ds := p.fraction.getD []
    let (m', left) := significand m 0 ds
    let exponent : Int := (dropped : Int) - ((ds.length - left : Nat) : Int)
    match p.power with
    | none => (Binary64.ofDecimal p.negative m' exponent).map .real
    | some (minus, es) =>
      let e := natOf es
      if e > maxPower then
        if m' = 0 ∨ minus then some (.real (.zero p.negative)) else none
      else
        let total := if minus then exponent - (e : Int) else exponent + (e : Int)
        (Binary64.ofDecimal p.negative m' total).map .real

/-- The power of ten at the head of a text, and what follows; nothing when the mark has no digit. -/
def power? (cs : List Char) : Option (Option (Bool × List Char) × List Char) :=
  match cs with
  | c :: rest =>
    if c = 'e' || c = 'E' then
      let (minus, rest) :=
        match rest with
        | '+' :: r => (false, r)
        | '-' :: r => (true, r)
        | r => (false, r)
      let ds := rest.takeWhile Char.isDigit
      if ds.isEmpty then none else some (some (minus, ds), rest.dropWhile Char.isDigit)
    else some (none, cs)
  | [] => some (none, [])

/-- The fraction at the head of a text, and what follows; nothing when the point has no digit. -/
def fraction? (cs : List Char) : Option (Option (List Char) × List Char) :=
  match cs with
  | '.' :: rest =>
    let ds := rest.takeWhile Char.isDigit
    if ds.isEmpty then none else some (some ds, rest.dropWhile Char.isDigit)
  | _ => some (none, cs)

/-- The number at the head of a text, if it has a value, and what follows it. A zero is followed by
no digit. -/
def number? (negative : Bool) (cs : List Char) : Option (Option Number × List Char) := do
  let ds := cs.takeWhile Char.isDigit
  match ds with
  | [] => none
  | '0' :: _ :: _ => none
  | _ =>
    let (fraction, rest) ← fraction? (cs.dropWhile Char.isDigit)
    let (power, rest) ← power? rest
    return (Parts.value? ⟨negative, ds, fraction, power⟩, rest)

/-! ## Scanning -/

/-- The tokens of a text of at most `fuel` characters. -/
def scanFrom : Nat → List Char → Option (List Token)
  | _, [] => some []
  | 0, _ :: _ => none
  | fuel + 1, c :: rest =>
    if isBlank c then scanFrom fuel rest
    else
      let mark (t : Token) (r : List Char) : Option (List Token) := (scanFrom fuel r).map (t :: ·)
      match c, rest with
      | '\x7b', r => mark .openObject r
      | '\x7d', r => mark .closeObject r
      | '[', r => mark .openList r
      | ']', r => mark .closeList r
      | ',', r => mark .comma r
      | ':', r => mark .colon r
      | 'n', 'u' :: 'l' :: 'l' :: r => mark .null r
      | 't', 'r' :: 'u' :: 'e' :: r => mark (.bool true) r
      | 'f', 'a' :: 'l' :: 's' :: 'e' :: r => mark (.bool false) r
      | '"', r => do
        let (s, r') ← quoted? (r.length + 1) r
        mark (.str ((characters? s).map String.ofList)) r'
      | '-', r => do
        let (n, r') ← number? true r
        mark (.num n) r'
      | _, _ => do
        let (n, r') ← number? false (c :: rest)
        mark (.num n) r'

/-- The tokens of a text. -/
def scan (text : String) : Option (List Token) :=
  let cs := text.toList
  scanFrom cs.length cs

end Token

end TenantFleet.Json
