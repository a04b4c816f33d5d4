/-
# What plain scalars mean

A plain scalar without a tag stands for null, a truth value or a number when it is written like one,
and else for a text. Integers may be written in four bases; digits behind a leading zero are a text.

* `Plain.isNull`, `Plain.bool?`, `Plain.int?` and `Plain.isReal` : how values are written;
* `Plain.tooLarge` : the integers that have no value although they are written like one.
-/
import TenantFleet.Json.Token

namespace TenantFleet.Yaml.Plain

/-- Whether a text is written like null. -/
def isNull (s : String) : Bool := s ∈ ["null", "Null", "NULL", "~"]

/-- The truth value of a text. -/
def bool? (s : String) : Option Bool :=
  if s ∈ ["true", "True", "TRUE"] then some true
  else if s ∈ ["false", "False", "FALSE"] then some false
  else none

/-! ## Integers -/

/-- The value of digits in a base; at least one has to be there. -/
def natural? (base : Nat) (cs : List Char) : Option Nat :=
  if cs.isEmpty then none
  else do
    let ds ← cs.mapM Json.Token.hexDigit?
    if ds.all (· < base) then return ds.foldl (fun n d => n * base + d) 0 else none

/-- The value of digits behind the mark of their base; decimal digits have none, and no leading
zero. -/
def unsigned? : List Char → Option Nat
  | '0' :: 'x' :: ds => natural? 16 ds
  | '0' :: 'o' :: ds => natural? 8 ds
  | '0' :: 'b' :: ds => natural? 2 ds
  | ['0'] => some 0
  | '0' :: _ => none
  | ds => natural? 10 ds

/-- The integer that a text is written like. -/
def int? (s : String) : Option Int :=
  match s.toList with
  | '-' :: cs => (unsigned? cs).map fun n => -(n : Int)
  | '+' :: cs | cs => (unsigned? cs).map fun n => (n : Int)

/-- Whether an integer has a value: 64 bits have to be enough, with a sign or without. -/
def fits (n : Int) : Bool := -(Nat.pow 2 63 : Int) ≤ n && n < (Nat.pow 2 64 : Int)

/-- Whether a text is written like an integer that fits 128 bits but has no value. An integer that
needs even more bits is no integer. -/
def tooLarge (s : String) : Bool :=
  (int? s).any fun n => !fits n && -(Nat.pow 2 127 : Int) ≤ n && n < (Nat.pow 2 128 : Int)

/-! ## Real numbers -/

/-- Whether a text is written like a finite real number. -/
def isFinite (cs : List Char) : Bool :=
  let (negative, cs) :=
    match cs with
    | '-' :: rest => (true, rest)
    | '+' :: rest => (false, rest)
    | rest => (false, rest)
  let whole := cs.takeWhile Char.isDigit
  let rest := cs.drop whole.length
  let (point, fraction) :=
    match rest with
    | '.' :: rest => (1, rest.takeWhile Char.isDigit)
    | _ => (0, [])
  match Json.Token.power? (rest.drop (point + fraction.length)) with
  | some (power, []) =>
    !(whole ++ fraction).isEmpty &&
      (Json.Token.Parts.value? ⟨negative, whole, some fraction, power⟩).isSome
  | _ => false

/-- Whether a text is written like a real number, an infinity or no number at all. -/
def isReal (s : String) : Bool :=
  s ∈ [".inf", ".Inf", ".INF", "+.inf", "+.Inf", "+.INF", "-.inf", "-.Inf", "-.INF", ".nan", ".NaN",
    ".NAN"] || isFinite s.toList

end TenantFleet.Yaml.Plain
