/-
# Reading unsigned integers of 64 bits

A plus sign may stand before the digits and zeros may lead them; nothing else is accepted. Each way
to fail has its own wording.
-/

namespace TenantFleet

/-- The largest unsigned integer of 64 bits. -/
def maxUInt64 : Nat := Nat.pow 2 64 - 1

/-- Why a text is no unsigned integer of 64 bits. -/
inductive UnsignedError
  | empty
  | invalidDigit
  | tooLarge
  deriving DecidableEq, Inhabited

/-- The wording of a failed reading. -/
def UnsignedError.message : UnsignedError → String
  | .empty => "cannot parse integer from empty string"
  | .invalidDigit => "invalid digit found in string"
  | .tooLarge => "number too large to fit in target type"

namespace Unsigned

/-- The value of a list of digits, or the first fault met from the left. -/
def digits (limit : Nat) (acc : Nat) : List Char → Except UnsignedError Nat
  | [] => .ok acc
  | c :: rest =>
    if c.isDigit then
      let n := acc * 10 + (c.toNat - '0'.toNat)
      if n ≤ limit then digits limit n rest else .error .tooLarge
    else .error .invalidDigit

/-- The value of a text, at most `limit`. -/
def parseUpTo (limit : Nat) (s : String) : Except UnsignedError Nat :=
  match s.toList with
  | [] => .error .empty
  | ['+'] => .error .invalidDigit
  | '+' :: rest => digits limit 0 rest
  | cs => digits limit 0 cs

/-- The value of a text, below `2 ^ 64`. -/
def parse (s : String) : Except UnsignedError Nat := parseUpTo maxUInt64 s

end Unsigned

end TenantFleet
