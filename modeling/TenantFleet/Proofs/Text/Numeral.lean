/-
# Numerals and their values

A run of digits ends in one place, so the decimal numeral of a number says which one it is, whatever
follows. It is read as that number, as long as this is below the limit. A base 36 numeral has the
value of the number that it was made for, with zeros in front or without, so different numbers have
different numerals.

* `takeWhile_digits` and `toDigits_append_inj` : where digits end;
* `Unsigned.digits_eq` and `Unsigned.parse_toString` : decimal numerals are read;
* `Base36.value_padded` : base 36 numerals have their values.
-/
import Mathlib.Data.List.TakeWhile
import TenantFleet.Text.Base36
import TenantFleet.Text.Unsigned

namespace TenantFleet

/-! ## Runs of digits -/

section Digits

variable {r r' ds ds' : List Char} {m n : Nat}

/-- Whether no digit is at the head of what follows. -/
def NoDigit (r : List Char) : Prop := ∀ c ∈ r.head?, c.isDigit = false

/-- Digits are taken up to the first other character. -/
theorem takeWhile_digits (hds : ∀ c ∈ ds, c.isDigit = true) (hr : NoDigit r) :
    (ds ++ r).takeWhile Char.isDigit = ds ∧ (ds ++ r).dropWhile Char.isDigit = r := by
  rw [List.takeWhile_append_of_pos hds, List.dropWhile_append_of_pos hds]
  cases r with
  | nil => exact ⟨List.append_nil ds, rfl⟩
  | cons c rest =>
    have hc : ¬c.isDigit = true := by rw [hr c rfl]; exact Bool.false_ne_true
    rw [List.takeWhile_cons_of_neg hc, List.dropWhile_cons_of_neg hc, List.append_nil]
    exact ⟨rfl, rfl⟩

/-- The digits at the head of a text are taken whatever follows them, unless it is a digit. -/
theorem takeWhile_frame (cs : List Char) (hr : NoDigit r) :
    (cs.takeWhile Char.isDigit ++ r).takeWhile Char.isDigit = cs.takeWhile Char.isDigit ∧
      (cs.takeWhile Char.isDigit ++ r).dropWhile Char.isDigit = r :=
  takeWhile_digits (fun _ => List.mem_takeWhile_imp) hr

/-- A run of digits ends in one place. -/
theorem digits_append_inj (hds : ∀ c ∈ ds, c.isDigit = true) (hds' : ∀ c ∈ ds', c.isDigit = true)
    (hr : NoDigit r) (hr' : NoDigit r') (h : ds ++ r = ds' ++ r') : ds = ds' ∧ r = r' := by
  obtain ⟨htake, hdrop⟩ := takeWhile_digits hds hr
  rw [h] at htake hdrop
  obtain ⟨htake', hdrop'⟩ := takeWhile_digits hds' hr'
  exact ⟨htake.symm.trans htake', hdrop.symm.trans hdrop'⟩

/-- The numeral of a number is a run of digits. -/
theorem isDigit_of_mem_toDigits : ∀ c ∈ Nat.toDigits 10 n, c.isDigit = true :=
  fun _ hc => Nat.isDigit_of_mem_toDigits (by decide) (by decide) hc

/-- At the head of the numeral of a number is a digit. -/
theorem toDigits_eq_cons (n : Nat) : ∃ c ds, Nat.toDigits 10 n = c :: ds ∧ c.isDigit = true := by
  obtain ⟨c, ds, hds⟩ := List.exists_cons_of_ne_nil (Nat.toDigits_ne_nil (b := 10) (n := n))
  exact ⟨c, ds, hds, isDigit_of_mem_toDigits c (hds ▸ List.mem_cons_self)⟩

/-- The numeral of a number ends in one place, and says which number it is. -/
theorem toDigits_append_inj (hr : NoDigit r) (hr' : NoDigit r')
    (h : Nat.toDigits 10 m ++ r = Nat.toDigits 10 n ++ r') : m = n ∧ r = r' := by
  obtain ⟨hdigits, hrest⟩ := digits_append_inj isDigit_of_mem_toDigits
    isDigit_of_mem_toDigits hr hr' h
  have hvalue := congrArg (Nat.ofDigitChars 10 · 0) hdigits
  rw [Nat.ofDigitChars_ten_toDigits, Nat.ofDigitChars_ten_toDigits] at hvalue
  exact ⟨hvalue, hrest⟩

end Digits

/-! ## Decimal numerals -/

namespace Unsigned

/-- Further digits do not lower the value. -/
theorem le_ofDigitChars (cs : List Char) (acc : Nat) : acc ≤ Nat.ofDigitChars 10 cs acc := by
  induction cs generalizing acc with
  | nil => exact Nat.le_of_eq Nat.ofDigitChars_nil.symm
  | cons c rest ih =>
    rw [Nat.ofDigitChars_cons]
    exact Nat.le_trans (by omega) (ih _)

/-- Digits are read when their value is within the limit. -/
theorem digits_eq {limit acc : Nat} {cs : List Char} (hdigits : ∀ c ∈ cs, c.isDigit = true)
    (hlimit : Nat.ofDigitChars 10 cs acc ≤ limit) :
    digits limit acc cs = .ok (Nat.ofDigitChars 10 cs acc) := by
  induction cs generalizing acc with
  | nil => rfl
  | cons c rest ih =>
    rw [Nat.ofDigitChars_cons, Nat.mul_comm] at hlimit ⊢
    have hle := Nat.le_trans (le_ofDigitChars rest _) hlimit
    rw [digits, if_pos (hdigits c List.mem_cons_self)]
    dsimp only
    rw [if_pos hle]
    exact ih (fun x hx => hdigits x (List.mem_cons_of_mem c hx)) hlimit

/-- The decimal numeral of a number is read as the number. -/
theorem parse_toString {n : Nat} (h : n < Nat.pow 2 64) : parse (toString n) = .ok n := by
  have hdigits : ∀ c ∈ Nat.toDigits 10 n, c.isDigit = true := isDigit_of_mem_toDigits
  have hread : digits maxUInt64 0 (Nat.toDigits 10 n) = .ok n := by
    have hlimit : Nat.ofDigitChars 10 (Nat.toDigits 10 n) 0 ≤ maxUInt64 := by
      rw [Nat.ofDigitChars_ten_toDigits]
      exact Nat.le_sub_one_of_lt h
    rw [digits_eq hdigits hlimit, Nat.ofDigitChars_ten_toDigits]
  unfold parse parseUpTo
  rw [Nat.toString_eq_repr, Nat.toList_repr]
  -- A numeral is not empty, and it has no sign.
  split
  · rename_i hnil
    exact absurd hnil Nat.toDigits_ne_nil
  · rename_i hplus
    have hsign := hdigits '+' (by rw [hplus]; exact List.mem_cons_self)
    exact absurd hsign (by decide)
  · rename_i rest _ hplus
    have hsign := hdigits '+' (by rw [hplus]; exact List.mem_cons_self)
    exact absurd hsign (by decide)
  · exact hread

end Unsigned

/-! ## Base 36 numerals -/

namespace Base36

/-- The value of digits behind a number. -/
def valueFrom (n : Nat) (ds : List Char) : Nat := ds.foldl (fun n c => n * 36 + digitValue c) n

/-- The digits of a number are as good as the number. -/
theorem valueFrom_digitsBefore (n : Nat) (tail : List Char) :
    valueFrom 0 (digitsBefore n tail) = valueFrom n tail := by
  induction n using Nat.strongRecOn generalizing tail with
  | ind n ih =>
    have hlast : valueFrom (n / 36) (digitChar (n % 36) :: tail) = valueFrom n tail := by
      have hdigit := digitValue_digitChar (Nat.mod_lt n (by decide : 0 < 36))
      show valueFrom (n / 36 * 36 + digitValue (digitChar (n % 36))) tail = _
      rw [hdigit, Nat.mul_comm, Nat.div_add_mod]
    rw [digitsBefore]
    split
    · rename_i hsmall
      rw [hsmall] at hlast
      exact hlast
    · rw [ih (n / 36) (by omega)]
      exact hlast

/-- Zeros in front do not count. -/
theorem valueFrom_zeros (k : Nat) (ds : List Char) :
    valueFrom 0 (List.replicate k '0' ++ ds) = valueFrom 0 ds := by
  induction k with
  | zero => rfl
  | succ k ih =>
    rw [List.replicate_succ, List.cons_append]
    exact ih

/-- The numeral of a number has its value. -/
theorem value_padded (width n : Nat) : value (padded width n) = n := by
  show valueFrom 0 (List.replicate _ '0' ++ digitsBefore n []) = n
  rw [valueFrom_zeros, valueFrom_digitsBefore]
  rfl

end Base36

end TenantFleet
