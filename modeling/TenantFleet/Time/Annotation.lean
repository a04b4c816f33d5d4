/-
# Annotations behind a point in time

Behind its offset a point in time may carry annotations in square brackets: first the name or the
offset of a time zone, then keys with values. None of them moves the point in time, and names of
time zones are not looked up; an annotation that has to be understood, marked by an exclamation
mark, can only be one of a time zone.

* `Annotation.allValid` : whether a text is a list of annotations.
-/
import TenantFleet.Time.Timestamp

namespace TenantFleet.Annotation

open Timestamp

/-! ## Brackets -/

/-- What stands between the brackets of each annotation of a text that holds nothing else. -/
def bodies? : List Char → Option (List (List Char))
  | [] => some []
  | '[' :: rest =>
    match _ : rest.dropWhile (· ≠ ']') with
    | _ :: more => (bodies? more).map (rest.takeWhile (· ≠ ']') :: ·)
    | [] => none
  | _ => none
termination_by cs => cs.length
decreasing_by
  rename_i hmore
  have hle := (List.dropWhile_suffix (l := rest) (· ≠ ']')).length_le
  rw [hmore] at hle
  simp only [List.length_cons] at hle ⊢
  omega

/-- The parts of a text between separators. -/
def parts (separator : String) (body : List Char) : List (List Char) :=
  ((String.ofList body).splitOn separator).map String.toList

/-- Whether a text begins with a character of one class and goes on with characters of another. -/
def isWord (first later : Char → Bool) : List Char → Bool
  | c :: rest => first c && rest.all later
  | [] => false

/-! ## Time zones -/

/-- Whether a character can begin a part of the name of a time zone. -/
def beginsZone (c : Char) : Bool := c.isAlpha || c = '_' || c = '.'

/-- Whether a character can stand in a part of the name of a time zone. -/
def inZone (c : Char) : Bool := beginsZone c || c.isDigit || c = '+' || c = '-'

/-- Whether a text has the form of the name of a time zone, such as `Europe/Berlin`. -/
def isZone (body : List Char) : Bool := (parts "/" body).all (isWord beginsZone inZone)

/-- Whether a text is an offset of hours and minutes, such as `+02:00`. -/
def isOffset : List Char → Bool
  | c :: rest =>
    (c = '+' || c = '-') &&
      match digits? 2 rest with
      | some (h, []) => h ≤ 25
      | some (h, ':' :: minutes) | some (h, minutes) =>
        h ≤ 25 && (digits? 2 minutes).any fun (m, rest) => m < 60 && rest.isEmpty
      | none => false
  | [] => false

/-! ## Keys and values -/

/-- Whether a character can begin a key. -/
def beginsKey (c : Char) : Bool := c.isLower || c = '_'

/-- Whether a character can stand in a key. -/
def inKey (c : Char) : Bool := beginsKey c || c.isDigit || c = '-'

/-- Whether a text is a key with values, such as `u-ca=iso8601`. -/
def isPair (body : List Char) : Bool :=
  match parts "=" body with
  | [key, values] =>
    isWord beginsKey inKey key &&
      (parts "-" values).all (isWord Char.isAlphanum Char.isAlphanum)
  | _ => false

/-- Whether an annotation can stand in front of the others. -/
def isFirst : List Char → Bool
  | '!' :: body => isZone body || isOffset body
  | body => isZone body || isOffset body || isPair body

/-- Whether a text is a list of annotations. -/
def allValid (cs : List Char) : Bool :=
  match bodies? cs with
  | some (first :: others) => isFirst first && others.all isPair
  | some [] => true
  | none => false

end TenantFleet.Annotation
