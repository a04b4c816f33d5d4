/-
# Points in time

A timestamp counts seconds since the start of 1970 in universal time, with a fraction in
nanoseconds. A fraction of one second and more marks a leap second.

* `Timestamp.ofCivil?` : the point in time of a date, a time of day and an offset;
* `Timestamp.parse?` : reads a date, a time and an offset;
* `Timestamp.seconds` and `Timestamp.fractional` : write it in universal time.
-/

namespace TenantFleet

/-- A point in time. -/
structure Timestamp where
  /-- Whole seconds since the start of 1970. -/
  unix : Int
  /-- The fraction in nanoseconds; from `10 ^ 9` on it lies in a leap second. -/
  nanos : Nat
  deriving DecidableEq, Inhabited

namespace Timestamp

/-! ## Calendar -/

/-- The days from the start of 1970 to a day of the Gregorian calendar. -/
def daysOfDate (year : Int) (month day : Nat) : Int :=
  let y := if month ≤ 2 then year - 1 else year
  let era := Int.fdiv y 400
  let yoe := y - era * 400
  let m : Int := if month > 2 then month - 3 else month + 9
  let doy := (153 * m + 2) / 5 + (day : Int) - 1
  let doe := yoe * 365 + yoe / 4 - yoe / 100 + doy
  era * 146097 + doe - 719468

/-- The year, month and day of a count of days from the start of 1970. -/
def dateOfDays (days : Int) : Int × Nat × Nat :=
  let z := days + 719468
  let era := Int.fdiv z 146097
  let doe := z - era * 146097
  let yoe := (doe - doe / 1460 + doe / 36524 - doe / 146096) / 365
  let doy := doe - (365 * yoe + yoe / 4 - yoe / 100)
  let mp := (5 * doy + 2) / 153
  let day := doy - (153 * mp + 2) / 5 + 1
  let month := if mp < 10 then mp + 3 else mp - 9
  let year := yoe + era * 400
  (if month ≤ 2 then year + 1 else year, month.toNat, day.toNat)

/-- Whether a year has a 29th of February. -/
def isLeapYear (year : Int) : Bool :=
  year % 4 = 0 && (year % 100 ≠ 0 || year % 400 = 0)

/-- The number of days of a month. -/
def daysInMonth (year : Int) (month : Nat) : Nat :=
  if month = 2 then (if isLeapYear year then 29 else 28)
  else if month = 4 ∨ month = 6 ∨ month = 9 ∨ month = 11 then 30 else 31

/-- A date and a time of day, as they are written. -/
structure Civil where
  /-- The year. -/
  year : Int
  /-- The month, from 1 on. -/
  month : Nat
  /-- The day of the month, from 1 on. -/
  day : Nat
  /-- The hour. -/
  hour : Nat := 0
  /-- The minute. -/
  minute : Nat := 0
  /-- The second; 60 is a leap second. -/
  second : Nat := 0
  /-- The fraction of the second in nanoseconds. -/
  nanos : Nat := 0
  deriving DecidableEq, Inhabited

/-- Whether a date and a time of day exist. -/
def Civil.valid (c : Civil) : Bool :=
  1 ≤ c.month && c.month ≤ 12 && 1 ≤ c.day && c.day ≤ daysInMonth c.year c.month
    && c.hour < 24 && c.minute < 60 && c.second ≤ 60

/-- The point in time of a date and a time of day, at an offset from universal time in seconds. -/
def ofCivil? (c : Civil) (offset : Int) : Option Timestamp :=
  if c.valid then
    let leap := c.second = 60
    let days := daysOfDate c.year c.month c.day
    let seconds := days * 86400 + c.hour * 3600 + c.minute * 60 + (if leap then 59 else c.second)
    some ⟨seconds - offset, if leap then c.nanos + 1000000000 else c.nanos⟩
  else none

/-! ## Reading -/

/-- The number that a list of digits spells. -/
def numberOf (ds : List Char) : Nat := ds.foldl (fun n c => n * 10 + (c.toNat - '0'.toNat)) 0

/-- The number spelled by exactly `n` digits at the head of a text. -/
def digits? (n : Nat) (cs : List Char) : Option (Nat × List Char) :=
  let ds := (cs.take n).takeWhile Char.isDigit
  if ds.length = n then some (numberOf ds, cs.drop n) else none

/-- The text after a given character. -/
def skip? (c : Char) : List Char → Option (List Char)
  | x :: rest => if x = c then some rest else none
  | [] => none

/-- The nanoseconds that the digits of a fraction stand for; digits behind the ninth are cut. -/
def nanosOf (ds : List Char) : Nat := numberOf ((ds ++ List.replicate 9 '0').take 9)

/-- The nanoseconds of a fraction at the head of a text, if there is one. -/
def fraction? (cs : List Char) : Option (Nat × List Char) :=
  match cs with
  | '.' :: rest =>
    let ds := rest.takeWhile Char.isDigit
    if ds.isEmpty then none else some (nanosOf ds, rest.drop ds.length)
  | _ => some (0, cs)

/-- The factor that a sign stands for; the minus of typesetting counts too. -/
def sign? (c : Char) : Option Int :=
  if c = '+' then some 1 else if c = '-' ∨ c = '\u2212' then some (-1) else none

/-- The offset from universal time in seconds, up to the end of the text. -/
def offset? : List Char → Option Int
  | ['Z'] | ['z'] => some 0
  | c :: rest => do
    let sign ← sign? c
    let (h, rest) ← digits? 2 rest
    let rest ← skip? ':' rest
    let (m, rest) ← digits? 2 rest
    if rest.isEmpty ∧ h < 24 ∧ m < 60 then return sign * ((h : Int) * 3600 + m * 60) else none
  | [] => none

/-- The text after the mark between a date and a time. -/
def timePart? : List Char → Option (List Char)
  | 'T' :: rest | 't' :: rest | ' ' :: rest => some rest
  | _ => none

/-- The point in time of a text such as `2024-05-01T12:00:00.5+02:00`. -/
def parse? (text : String) : Option Timestamp := do
  let (year, rest) ← digits? 4 text.toList
  let rest ← skip? '-' rest
  let (month, rest) ← digits? 2 rest
  let rest ← skip? '-' rest
  let (day, rest) ← digits? 2 rest
  let rest ← timePart? rest
  let (hour, rest) ← digits? 2 rest
  let rest ← skip? ':' rest
  let (minute, rest) ← digits? 2 rest
  let rest ← skip? ':' rest
  let (second, rest) ← digits? 2 rest
  let (nanos, rest) ← fraction? rest
  ofCivil? ⟨year, month, day, hour, minute, second, nanos⟩ (← offset? rest)

/-! ## Writing -/

/-- A number filled up with zeros to at least `width` digits. -/
def padded (width n : Nat) : String :=
  let ds := Nat.toDigits 10 n
  String.ofList (List.replicate (width - ds.length) '0' ++ ds)

/-- A year; outside of 0 to 9999 it carries a sign. -/
def yearText (year : Int) : String :=
  if 0 ≤ year ∧ year ≤ 9999 then padded 4 year.toNat
  else (if year < 0 then "-" else "+") ++ padded 4 year.natAbs

/-- The date and time up to the seconds, with a text for the year. -/
def civilWith (yearText : Int → String) (t : Timestamp) : String :=
  let days := Int.fdiv t.unix 86400
  let rest := (t.unix - days * 86400).toNat
  let (year, month, day) := dateOfDays days
  let second := rest % 60 + (if t.nanos ≥ 1000000000 then 1 else 0)
  yearText year ++ "-" ++ padded 2 month ++ "-" ++ padded 2 day ++ "T" ++
    padded 2 (rest / 3600) ++ ":" ++ padded 2 (rest / 60 % 60) ++ ":" ++ padded 2 second

/-- The date and time up to the seconds. -/
def civil (t : Timestamp) : String := t.civilWith yearText

/-- The text to whole seconds. -/
def seconds (t : Timestamp) : String := t.civil ++ "Z"

/-- The text with the fraction, if there is one, to three, six or nine digits. -/
def fractional (t : Timestamp) : String :=
  let n := t.nanos % 1000000000
  let fraction :=
    if n = 0 then ""
    else if n % 1000000 = 0 then "." ++ padded 3 (n / 1000000)
    else if n % 1000 = 0 then "." ++ padded 6 (n / 1000)
    else "." ++ padded 9 n
  t.civil ++ fraction ++ "Z"

end Timestamp

end TenantFleet
