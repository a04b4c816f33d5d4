/-
# Reading points in time of the ISO 8601 forms

A date and a time are written with marks between their parts or without any; minutes, seconds and
the fraction may be left out, a comma may stand before the fraction, and years behind a sign have
six digits. An offset is always there, and annotations may stand behind it. A leap second counts as
the second before it.

* `Timestamp.parseIso?` : reads a point in time of this form;
* `Timestamp.isoSeconds` : writes it to whole seconds.
-/
import TenantFleet.Time.Annotation

namespace TenantFleet.Timestamp

/-! ## Parts -/

/-- The year: four digits, or six behind a sign. -/
def isoYear? : List Char → Option (Int × List Char)
  | '+' :: rest => (digits? 6 rest).map fun (n, r) => ((n : Int), r)
  | '-' :: rest => do
    let (n, rest) ← digits? 6 rest
    if n = 0 then none else return (-(n : Int), rest)
  | cs => (digits? 4 cs).map fun (n, r) => ((n : Int), r)

/-- A date with or without marks. -/
def isoDate? (cs : List Char) : Option (Civil × List Char) := do
  let (year, rest) ← isoYear? cs
  if -9999 ≤ year ∧ year ≤ 9999 then
    match rest with
    | '-' :: rest =>
      let (month, rest) ← digits? 2 rest
      let (day, rest) ← digits? 2 (← skip? '-' rest)
      return ({ year := year, month := month, day := day }, rest)
    | rest =>
      let (month, rest) ← digits? 2 rest
      let (day, rest) ← digits? 2 rest
      return ({ year := year, month := month, day := day }, rest)
  else none

/-- The next part of two digits, if there is one: behind a colon when the parts are marked, else at
once. -/
def nextPart? (marked : Bool) (cs : List Char) : Option (Option Nat × List Char) :=
  if marked then
    match cs with
    | ':' :: rest => (digits? 2 rest).map fun (n, r) => (some n, r)
    | _ => some (none, cs)
  else
    match digits? 2 cs with
    | some (n, rest) => some (some n, rest)
    | none => some (none, cs)

/-- The nanoseconds of a fraction at the head of a text, if there is one; more than nine digits are
not taken. -/
def isoFraction? (cs : List Char) : Option (Nat × List Char) :=
  match cs with
  | '.' :: rest | ',' :: rest =>
    let ds := (rest.take 9).takeWhile Char.isDigit
    if ds.isEmpty then none else some (nanosOf ds, rest.drop ds.length)
  | _ => some (0, cs)

/-- A time of day on a date, with or without marks. -/
def isoTime? (date : Civil) (cs : List Char) : Option (Civil × List Char) := do
  let (hour, rest) ← digits? 2 cs
  let marked := rest.head? = some ':'
  let (minute, rest) ← nextPart? marked rest
  match minute with
  | none => return ({ date with hour := hour }, rest)
  | some minute =>
    let (second, rest) ← nextPart? marked rest
    match second with
    | none => return ({ date with hour := hour, minute := minute }, rest)
    | some second =>
      let (nanos, rest) ← isoFraction? rest
      let second := if second = 60 then 59 else second
      return ({ date with hour := hour, minute := minute, second := second, nanos := nanos }, rest)

/-- The offset from universal time in seconds. -/
def isoOffset? : List Char → Option (Int × List Char)
  | 'Z' :: rest | 'z' :: rest => some (0, rest)
  | c :: rest => do
    let sign : Int ← if c = '+' then some 1 else if c = '-' then some (-1) else none
    let (h, rest) ← digits? 2 rest
    let marked := rest.head? = some ':'
    let (minute, rest) ← nextPart? marked rest
    let (second, rest) ← if minute.isSome then nextPart? marked rest else some (none, rest)
    let (nanos, rest) ← if second.isSome then isoFraction? rest else some (0, rest)
    let m := minute.getD 0
    let s := second.getD 0
    if h ≤ 25 ∧ m < 60 ∧ s < 60 then
      return (sign * ((h : Int) * 3600 + m * 60 + s + if nanos < 500000000 then 0 else 1), rest)
    else none
  | [] => none

/-! ## Whole texts -/

/-- The first second that can be told apart. -/
def isoFirst : Int := -377705023201

/-- The last second that can be told apart. -/
def isoLast : Int := 253402207200

/-- The point in time of a text such as `20240501T12Z`. -/
def parseIso? (text : String) : Option Timestamp := do
  let (date, rest) ← isoDate? text.toList
  let (civil, rest) ← isoTime? date (← timePart? rest)
  let (offset, rest) ← isoOffset? rest
  let t ← ofCivil? civil offset
  if isoFirst ≤ t.unix ∧ t.unix ≤ isoLast ∧ Annotation.allValid rest then return t else none

/-- A year of at least four characters, of which a minus is one. -/
def isoYearText (year : Int) : String :=
  if year < 0 then "-" ++ padded 3 year.natAbs else padded 4 year.natAbs

/-- The text to whole seconds. -/
def isoSeconds (t : Timestamp) : String := t.civilWith isoYearText ++ "Z"

end TenantFleet.Timestamp
