/-
# Shortest decimal text of a binary number

The digits of a finite number are the fewest that read back as it, and of those the nearest. A
number whose point falls within its first sixteen digits, or up to five zeros before them, is
written positionally and always shows a point; every other number is written with an exponent.

* `Binary64.shortest` : the digits and the place of the point;
* `Binary64.render` : the text.
-/
import TenantFleet.Decimal.Binary64

namespace TenantFleet.Binary64

/-! ## Digits -/

/-- The number of decimal digits before the point of `num / den`; zero or less for a fraction that
begins with zeros after the point. -/
def pointPlace (num den : Nat) : Int :=
  if den ≤ num then ((Nat.toDigits 10 (num / den)).length : Int)
  else
    let d := (Nat.toDigits 10 (den / num)).length - 1
    let j := if den ≤ num * Nat.pow 10 d then d else d + 1
    1 - (j : Int)

/-- A magnitude with the interval of reals that round to it, over one denominator. -/
structure Interval where
  /-- The lower end. -/
  lo : Nat
  /-- The value. -/
  mid : Nat
  /-- The upper end. -/
  hi : Nat
  /-- The common denominator. -/
  den : Nat
  /-- Whether the ends round to the value too. -/
  closed : Bool

/-- The interval of a number that is not zero: half way to either neighbour. -/
def interval (v : Binary64) : Interval :=
  let below := if v.mantissa = Nat.pow 2 52 ∧ v.exponent ≠ minExponent then 1 else 2
  let e := v.exponent - 2
  let scale := if 0 ≤ e then Nat.pow 2 e.toNat else 1
  let den := if 0 ≤ e then 1 else Nat.pow 2 (-e).toNat
  { lo := (4 * v.mantissa - below) * scale
    mid := 4 * v.mantissa * scale
    hi := (4 * v.mantissa + 2) * scale
    den := den
    closed := v.mantissa % 2 = 0 }

/-- Whether `c * 10 ^ g` lies in the interval. -/
def Interval.holds (i : Interval) (c : Nat) (g : Int) : Bool :=
  let up := if 0 ≤ g then Nat.pow 10 g.toNat else 1
  let down := if 0 ≤ g then 1 else Nat.pow 10 (-g).toNat
  let x := c * up * i.den
  if i.closed then decide (i.lo * down ≤ x) && decide (x ≤ i.hi * down)
  else decide (i.lo * down < x) && decide (x < i.hi * down)

/-- The whole number of steps `10 ^ g` below the value. -/
def Interval.below (i : Interval) (g : Int) : Nat :=
  if 0 ≤ g then i.mid / (i.den * Nat.pow 10 g.toNat) else i.mid * Nat.pow 10 (-g).toNat / i.den

/-- Whether the upper of two grid points is nearer, or as near and even. -/
def Interval.prefersUpper (i : Interval) (c : Nat) (g : Int) : Bool :=
  let up := if 0 ≤ g then Nat.pow 10 g.toNat else 1
  let down := if 0 ≤ g then 1 else Nat.pow 10 (-g).toNat
  let x := (2 * c + 1) * up * i.den
  let m := 2 * i.mid * down
  if m = x then c % 2 = 1 else x < m

/-- The grid point of `n` digits in the interval that is nearest to the value. -/
def Interval.pick (i : Interval) (place : Int) (n : Nat) : Option (Nat × Int) :=
  let g := place - (n : Int)
  let c := i.below g
  match i.holds c g, i.holds (c + 1) g with
  | true, true => some (if i.prefersUpper c g then c + 1 else c, g)
  | true, false => some (c, g)
  | false, true => some (c + 1, g)
  | false, false => none

/-- The first grid with a point in the interval, from `n` digits on. -/
def Interval.search (i : Interval) (place : Int) (n : Nat) : Nat → Nat × Int
  | 0 => (i.below (place - n), place - n)
  | fuel + 1 =>
    match i.pick place n with
    | some r => r
    | none => i.search place (n + 1) fuel

/-- Drops the zeros at the end of a digit text. -/
def stripZeros (ds : List Char) : List Char := (ds.reverse.dropWhile (· = '0')).reverse

/-- The fewest digits that read back as a number that is not zero, and the count of digits before
the point. -/
def shortest (v : Binary64) : List Char × Int :=
  let i := v.interval
  let (c, g) := i.search (pointPlace i.mid i.den) 1 17
  let ds := Nat.toDigits 10 c
  (stripZeros ds, (ds.length : Int) + g)

/-! ## Text -/

/-- The text of a power of ten, with a sign in any case. -/
def powerText (e : Int) : List Char :=
  if 0 ≤ e then '+' :: (toString e).toList else (toString e).toList

/-- The digits with their point; `place` counts the digits before it. -/
def layout (ds : List Char) (place : Int) : List Char :=
  let n : Int := ds.length
  if n ≤ place ∧ place ≤ 16 then
    ds ++ List.replicate (place - n).toNat '0' ++ ['.', '0']
  else if 0 < place ∧ place ≤ 16 then
    ds.take place.toNat ++ '.' :: ds.drop place.toNat
  else if -5 < place ∧ place ≤ 0 then
    '0' :: '.' :: List.replicate (-place).toNat '0' ++ ds
  else
    let power := powerText (place - 1)
    match ds with
    | [d] => d :: 'e' :: power
    | d :: rest => d :: '.' :: rest ++ 'e' :: power
    | [] => []

/-- The text of a number. -/
def render (v : Binary64) : String :=
  let sign := if v.negative then ['-'] else []
  if v.mantissa = 0 then String.ofList (sign ++ ['0', '.', '0'])
  else
    let (ds, place) := v.shortest
    String.ofList (sign ++ layout ds place)

end TenantFleet.Binary64
