/-
# Reading points in time loosely

People write points in time less strictly than machines: with blanks around the numbers, with fewer
digits, with an offset that has no colon, or with `UTC` as the offset.

* `Timestamp.parseLoose?` : reads a point in time of this form.
-/
import TenantFleet.Text.Blank
import TenantFleet.Time.Timestamp

namespace TenantFleet.Timestamp

/-! ## Parts -/

/-- A text without the blanks at its head. -/
def skipBlanks (cs : List Char) : List Char := cs.dropWhile Text.isBlank

/-- The number at the head of a text, of any number of digits. -/
def number? (cs : List Char) : Option (Nat × List Char) :=
  let ds := cs.takeWhile Char.isDigit
  if ds.isEmpty then none else some (numberOf ds, cs.drop ds.length)

/-- The number behind blanks, of at most `width` digits. -/
def shortNumber? (width : Nat) (cs : List Char) : Option (Nat × List Char) :=
  let cs := skipBlanks cs
  let ds := (cs.take width).takeWhile Char.isDigit
  if ds.isEmpty then none else some (numberOf ds, cs.drop ds.length)

/-- The text after a character behind blanks. -/
def skipMark? (c : Char) (cs : List Char) : Option (List Char) := skip? c (skipBlanks cs)

/-- The years that can be told apart. -/
def knownYear (year : Int) : Bool := -262143 ≤ year && year ≤ 262142

/-- The year behind blanks: of at most four digits, or of any number of them behind a sign. -/
def looseYear? (cs : List Char) : Option (Int × List Char) := do
  let (year, rest) ←
    match skipBlanks cs with
    | '-' :: rest => (number? rest).map fun (n, r) => (-(n : Int), r)
    | '+' :: rest => (number? rest).map fun (n, r) => ((n : Int), r)
    | rest => (shortNumber? 4 rest).map fun (n, r) => ((n : Int), r)
  if knownYear year then return (year, rest) else none

/-- The offset that a sign begins, with or without a colon. -/
def looseSignedOffset? : List Char → Option (Int × List Char)
  | c :: rest => do
    let sign ← sign? c
    let (h, rest) ← digits? 2 rest
    let (m, rest) ← digits? 2 (rest.dropWhile fun c => c = ':' || Text.isBlank c)
    if h < 24 ∧ m < 60 then return (sign * ((h : Int) * 3600 + m * 60), rest) else none
  | [] => none

/-- The offset behind blanks. -/
def looseOffset? (cs : List Char) : Option (Int × List Char) :=
  let cs := skipBlanks cs
  if (cs.take 3).map Char.toUpper = ['U', 'T', 'C'] then some (0, cs.drop 3)
  else if (cs.take 1).map Char.toUpper = ['Z'] then some (0, cs.drop 1)
  else looseSignedOffset? cs

/-! ## Whole texts -/

/-- The first second that can be told apart: that of the first known year, in universal time. -/
def looseFirst : Int := daysOfDate (-262143) 1 1 * 86400

/-- The second after the last one that can be told apart. -/
def looseEnd : Int := daysOfDate 262143 1 1 * 86400

/-- The point in time of a text such as `2024-5-1 12:00:00 UTC`. -/
def parseLoose? (text : String) : Option Timestamp := do
  let (year, rest) ← looseYear? text.toList
  let (month, rest) ← shortNumber? 2 (← skipMark? '-' rest)
  let (day, rest) ← shortNumber? 2 (← skipMark? '-' rest)
  let (hour, rest) ← shortNumber? 2 (← timePart? rest)
  let (minute, rest) ← shortNumber? 2 (← skipMark? ':' rest)
  let (second, rest) ← shortNumber? 2 (← skipMark? ':' rest)
  let (nanos, rest) ← fraction? rest
  let (offset, rest) ← looseOffset? rest
  let t ← ofCivil? ⟨year, month, day, hour, minute, second, nanos⟩ offset
  if (skipBlanks rest).isEmpty ∧ looseFirst ≤ t.unix ∧ t.unix < looseEnd then return t else none

end TenantFleet.Timestamp
