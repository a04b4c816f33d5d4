/-
# Base 36 numerals

Numerals with the digits `0` to `9` and `a` to `z`, the most significant digit first.

* `Base36.padded` : the numeral of a number, at least so many digits wide;
* `Base36.digitValue_digitChar` : a digit has the value it was made for.
-/

namespace TenantFleet.Base36

/-- The digit of a value below 36. -/
def digitChar (n : Nat) : Char :=
  if n < 10 then Char.ofNat ('0'.toNat + n) else Char.ofNat ('a'.toNat + (n - 10))

/-- The digits of a number before those in `tail`. -/
def digitsBefore (n : Nat) (tail : List Char) : List Char :=
  let tail' := digitChar (n % 36) :: tail
  if n / 36 = 0 then tail' else digitsBefore (n / 36) tail'
  termination_by n
  decreasing_by omega

/-- The numeral of a number, without leading zeros. -/
def digits (n : Nat) : List Char := digitsBefore n []

/-- The numeral of a number, filled up with zeros to at least `width` digits. -/
def padded (width n : Nat) : List Char :=
  let ds := digits n
  List.replicate (width - ds.length) '0' ++ ds

/-- The value of a digit. -/
def digitValue (c : Char) : Nat :=
  if c.toNat < 'a'.toNat then c.toNat - '0'.toNat else c.toNat - 'a'.toNat + 10

/-- The value of a numeral. -/
def value (ds : List Char) : Nat := ds.foldl (fun n c => n * 36 + digitValue c) 0

/-! ## Values -/

/-- A digit has the value it was made for. -/
theorem digitValue_digitChar {n : Nat} (h : n < 36) : digitValue (digitChar n) = n := by
  revert n
  decide

end TenantFleet.Base36
