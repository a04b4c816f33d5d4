/-
# Binary floating point numbers of 64 bits

A finite number is a sign, a mantissa below `2 ^ 53` and a power of two. `Binary64.ofRatio` rounds a
quotient of natural numbers to the nearest such number, the even mantissa on a tie; products,
quotients and powers of ten are rounded through it.
-/

namespace TenantFleet

/-- The number `mantissa * 2 ^ exponent`, with a sign of its own for zero. -/
structure Binary64 where
  /-- Whether the number carries a minus sign. -/
  negative : Bool
  /-- The significant bits. -/
  mantissa : Nat
  /-- The power of two that scales the mantissa. -/
  exponent : Int
  deriving DecidableEq, Repr, Inhabited

namespace Binary64

/-- The exponent of the subnormal numbers. -/
def minExponent : Int := -1074

/-- The exponent of the largest finite numbers. -/
def maxExponent : Int := 971

/-- The zero of the given sign. -/
def zero (negative : Bool) : Binary64 := ⟨negative, 0, minExponent⟩

/-- The quotient of two naturals, rounded to nearest, a tie to the even neighbour. -/
def roundDiv (num den : Nat) : Nat :=
  let q := num / den
  let r := num % den
  if 2 * r < den then q
  else if 2 * r = den then (if q % 2 = 0 then q else q + 1)
  else q + 1

/-- `num / den` scaled by `2 ^ (-e)` and rounded. -/
def scaled (num den : Nat) (e : Int) : Nat :=
  if 0 ≤ e then roundDiv num (den * Nat.pow 2 e.toNat) else roundDiv
    (num * Nat.pow 2 (-e).toNat) den

/-- The exponent at which `num / den` has 53 bits before the point, or the least one there is. -/
def exponentOf (num den : Nat) : Int :=
  let guess : Int := (Nat.log2 num : Int) - (Nat.log2 den : Int) - 52
  let fits : Bool :=
    if 0 ≤ guess then den * Nat.pow 2 guess.toNat * Nat.pow 2 52 ≤ num
    else den * Nat.pow 2 52 ≤ num * Nat.pow 2 (-guess).toNat
  max minExponent (if fits then guess else guess - 1)

/-- The number nearest to `num / den`; nothing when it is beyond the finite range. -/
def ofRatio (negative : Bool) (num den : Nat) : Option Binary64 :=
  if num = 0 then some (zero negative)
  else
    let e := exponentOf num den
    let m := scaled num den e
    let (m, e) := if m = Nat.pow 2 53 then (Nat.pow 2 52, e + 1) else (m, e)
    if e > maxExponent then none else some ⟨negative, m, e⟩

/-- The number nearest to a natural number. -/
def ofNat (n : Nat) : Option Binary64 := ofRatio false n 1

/-- The rounded product of two magnitudes. -/
def mul (a b : Binary64) : Option Binary64 :=
  let e := a.exponent + b.exponent
  let m := a.mantissa * b.mantissa
  if 0 ≤ e then ofRatio false (m * Nat.pow 2 e.toNat) 1 else ofRatio false m (Nat.pow 2 (-e).toNat)

/-- The rounded quotient of two magnitudes, the second one not zero. -/
def div (a b : Binary64) : Option Binary64 :=
  let e := a.exponent - b.exponent
  if 0 ≤ e then ofRatio false (a.mantissa * Nat.pow 2 e.toNat) b.mantissa
  else ofRatio false a.mantissa (b.mantissa * Nat.pow 2 (-e).toNat)

/-- The number nearest to a power of ten. -/
def pow10 (k : Nat) : Option Binary64 := ofNat (Nat.pow 10 k)

/-- The largest power of ten in the finite range. -/
def maxPow10 : Nat := 308

/-- Divides by `10 ^ k`, the largest finite power of ten at a time. -/
def divPow10 (a : Binary64) (k : Nat) : Option Binary64 :=
  if a.mantissa = 0 then some a
  else if k ≤ maxPow10 then do a.div (← pow10 k)
  else do divPow10 (← a.div (← pow10 maxPow10)) (k - maxPow10)
  termination_by k
  decreasing_by simp_all [maxPow10]; omega

/-- The number of a decimal text with the given digits and power of ten: the digits are rounded
first, and their product or quotient with the power of ten once more. -/
def ofDecimal (negative : Bool) (digits : Nat) (exponent : Int) : Option Binary64 := do
  let m ← ofNat digits
  let v ←
    if 0 ≤ exponent then
      if exponent.toNat ≤ maxPow10 then do m.mul (← pow10 exponent.toNat)
      else if digits = 0 then some m else none
    else m.divPow10 (-exponent).toNat
  return { v with negative := negative }

end Binary64

end TenantFleet
