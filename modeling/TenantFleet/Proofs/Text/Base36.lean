/-
# Lengths and order of base 36 numerals

A numeral of so many digits has a value below the power of 36 with that exponent, and the numeral of
a number has no more digits than it needs. Numerals of one length have the order of their values, as
the digits have the order of theirs.

* `length_digits_le_iff` : how many digits a number needs;
* `IsNumeral` and `isNumeral_padded` : what the numeral of a number is like;
* `lt_iff_value_lt` : the order of numerals of one length.
-/
import Mathlib.Algebra.Group.Nat.Defs
import TenantFleet.Proofs.Text.Numeral

namespace TenantFleet.Base36

variable {c c' : Char} {ds ds' : List Char} {k m n : Nat}

/-! ## Digits -/

/-- Whether a character is a decimal digit or a lower case letter. -/
def IsDigit (c : Char) : Prop := c.isDigit = true ∨ c.isLower = true

/-- A digit has one of two ranges of codes. -/
theorem isDigit_iff : IsDigit c ↔ (48 ≤ c.toNat ∧ c.toNat ≤ 57) ∨
    (97 ≤ c.toNat ∧ c.toNat ≤ 122) := by
  unfold IsDigit Char.isDigit Char.isLower
  rw [Bool.and_eq_true, Bool.and_eq_true, decide_eq_true_eq, decide_eq_true_eq, decide_eq_true_eq,
    decide_eq_true_eq]
  rfl

theorem isDigit_digitChar (h : n < 36) : IsDigit (digitChar n) := by
  rw [isDigit_iff]
  revert n
  decide

/-- Only nothing is written as zero. -/
theorem digitChar_ne_zero (h : n < 36) (hpos : 0 < n) : digitChar n ≠ '0' := by
  intro hzero
  have hvalue := digitValue_digitChar h
  rw [hzero] at hvalue
  exact absurd hvalue (Nat.ne_of_lt hpos)

theorem digitValue_lt (h : IsDigit c) : digitValue c < 36 := by
  have hcode := isDigit_iff.1 h
  unfold digitValue
  simp only [Char.reduceToNat]
  split <;> omega

/-- The digits have the order of their values. -/
theorem digitValue_lt_iff (h : IsDigit c) (h' : IsDigit c') : digitValue c < digitValue c' ↔
    c < c' := by
  have hcode := isDigit_iff.1 h
  have hcode' := isDigit_iff.1 h'
  have hlt : c < c' ↔ c.toNat < c'.toNat := Iff.rfl
  rw [hlt]
  unfold digitValue
  simp only [Char.reduceToNat]
  split <;> split <;> omega

/-- Different digits have different values. -/
theorem digitValue_inj (h : IsDigit c) (h' : IsDigit c')
    (hvalue : digitValue c = digitValue c') : c = c' := by
  have hlt := (digitValue_lt_iff h h').not.1 (by omega)
  have hgt := (digitValue_lt_iff h' h).not.1 (by omega)
  exact Char.le_antisymm (Char.not_lt.1 hgt) (Char.not_lt.1 hlt)

/-! ## Values of numerals -/

/-- What stands in front of digits counts by their number. -/
theorem valueFrom_eq (n : Nat) (ds : List Char) :
    valueFrom n ds = n * 36 ^ ds.length + valueFrom 0 ds := by
  induction ds generalizing n with
  | nil => simp [valueFrom]
  | cons c rest ih =>
    have hcons (n : Nat) : valueFrom n (c :: rest) = valueFrom (n * 36 + digitValue c) rest := rfl
    rw [hcons, hcons, ih, ih (0 * 36 + digitValue c), List.length_cons, Nat.pow_succ', Nat.add_mul,
      Nat.mul_assoc, Nat.zero_mul, Nat.zero_add, Nat.add_assoc]

theorem value_cons (c : Char) (ds : List Char) :
    value (c :: ds) = digitValue c * 36 ^ ds.length + value ds := by
  show valueFrom (0 * 36 + digitValue c) ds = _
  rw [Nat.zero_mul, Nat.zero_add]
  exact valueFrom_eq (digitValue c) ds

/-- The value of a numeral is below the power of its length. -/
theorem value_lt (h : ∀ c ∈ ds, IsDigit c) : value ds < 36 ^ ds.length := by
  induction ds with
  | nil => exact Nat.one_pos
  | cons c rest ih =>
    obtain ⟨hc, hrest⟩ := List.forall_mem_cons.1 h
    have hvalue := ih hrest
    calc value (c :: rest) = digitValue c * 36 ^ rest.length + value rest := value_cons c rest
      _ < (digitValue c + 1) * 36 ^ rest.length := by rw [Nat.add_mul]; omega
      _ ≤ 36 * 36 ^ rest.length := Nat.mul_le_mul_right _ (digitValue_lt hc)
      _ = 36 ^ (c :: rest).length := by rw [List.length_cons, Nat.pow_succ, Nat.mul_comm]

/-- Numerals of one length have the order of their values. -/
theorem lt_iff_value_lt (h : ∀ c ∈ ds, IsDigit c) (h' : ∀ c ∈ ds', IsDigit c)
    (hlength : ds.length = ds'.length) :
    ds < ds' ↔ value ds < value ds' := by
  induction ds generalizing ds' with
  | nil =>
    obtain rfl := List.length_eq_zero_iff.1 hlength.symm
    exact ⟨fun hlt => absurd hlt (List.lt_irrefl []), fun hlt => absurd hlt (Nat.lt_irrefl _)⟩
  | cons c rest ih =>
    cases ds' with
    | nil => cases hlength
    | cons c' rest' =>
      obtain ⟨hc, hrest⟩ := List.forall_mem_cons.1 h
      obtain ⟨hc', hrest'⟩ := List.forall_mem_cons.1 h'
      have hlength := Nat.succ.inj hlength
      have hbound := value_lt hrest
      have hbound' := value_lt hrest'
      rw [List.cons_lt_cons_iff, ih hrest hrest' hlength, ← digitValue_lt_iff hc hc',
        value_cons, value_cons]
      rw [hlength] at hbound ⊢
      -- The first digits decide, unless they are the same.
      rcases Nat.lt_trichotomy (digitValue c) (digitValue c') with hlt | heq | hgt
      · have hmul := Nat.mul_le_mul_right (36 ^ rest'.length) hlt
        rw [Nat.succ_mul] at hmul
        exact ⟨fun _ => by omega, fun _ => Or.inl hlt⟩
      · rw [digitValue_inj hc hc' heq]
        simp
      · have hmul := Nat.mul_le_mul_right (36 ^ rest'.length) hgt
        rw [Nat.succ_mul] at hmul
        constructor
        · rintro (hlt | ⟨rfl, -⟩)
          · omega
          · exact absurd hgt (Nat.lt_irrefl _)
        · omega

/-! ## The numeral of a number -/

/-- The digits of a number stand before what follows them. -/
theorem digitsBefore_eq (n : Nat) (tail : List Char) : digitsBefore n tail = digits n ++ tail := by
  induction n using Nat.strongRecOn generalizing tail with
  | ind n ih =>
    have hstep (tail : List Char) : digitsBefore n tail =
        if n / 36 = 0 then digitChar (n % 36) :: tail
        else digitsBefore (n / 36) (digitChar (n % 36) :: tail) := by
      rw [digitsBefore]
    unfold digits
    rw [hstep, hstep []]
    split
    · rfl
    · rw [ih (n / 36) (by omega), ih (n / 36) (by omega) [digitChar (n % 36)], List.append_assoc]
      rfl

/-- The numeral of a number is a digit, or the numeral of a smaller number and a digit. -/
theorem digits_eq (n : Nat) :
    digits n = if n / 36 = 0 then [digitChar (n % 36)] else digits (n / 36) ++
      [digitChar (n % 36)] := by
  rw [← digitsBefore_eq]
  unfold digits
  rw [digitsBefore]

theorem isDigit_of_mem_digits (n : Nat) : ∀ c ∈ digits n, IsDigit c := by
  induction n using Nat.strongRecOn with
  | ind n ih =>
    have hlast := isDigit_digitChar (Nat.mod_lt n (by decide : 0 < 36))
    rw [digits_eq]
    split
    · simpa using hlast
    · rename_i hlarge
      rw [List.forall_mem_append]
      exact ⟨ih (n / 36) (by omega), by simpa using hlast⟩

theorem digits_ne_nil (n : Nat) : digits n ≠ [] := by
  rw [digits_eq]
  split <;> simp

/-- How many digits a number needs. -/
theorem length_digits_le_iff (n k : Nat) : (digits n).length ≤ k + 1 ↔ n < 36 ^ (k + 1) := by
  induction k generalizing n with
  | zero =>
    rw [digits_eq]
    split
    · simp
      omega
    · rename_i hlarge
      have hpos := List.length_pos_iff.2 (digits_ne_nil (n / 36))
      simp only [List.length_append, List.length_singleton]
      omega
  | succ k ih =>
    have hpow : n < 36 ^ (k + 2) ↔ n / 36 < 36 ^ (k + 1) := by
      rw [Nat.div_lt_iff_lt_mul (by decide), ← Nat.pow_succ]
    rw [hpow, digits_eq]
    split
    · rename_i hsmall
      rw [hsmall]
      exact iff_of_true (Nat.le_add_left 1 (k + 1)) (Nat.pow_pos (by decide))
    · rw [List.length_append, List.length_singleton, Nat.add_le_add_iff_right]
      exact ih (n / 36)

/-- No numeral but that of zero begins with a zero. -/
theorem head?_digits (hpos : 0 < n) : (digits n).head? ≠ some '0' := by
  induction n using Nat.strongRecOn with
  | ind n ih =>
    rw [digits_eq]
    split
    · rename_i hsmall
      have hdigit := digitChar_ne_zero (Nat.mod_lt n (by decide : 0 < 36)) (by omega)
      simpa using hdigit
    · rename_i hlarge
      obtain ⟨c, rest, hdigits⟩ := List.exists_cons_of_ne_nil (digits_ne_nil (n / 36))
      have hhead := ih (n / 36) (by omega) (by omega)
      rw [hdigits] at hhead ⊢
      exact hhead

/-- What the numeral of a number is like: it has at least so many digits, all of them when the
number is small, and is otherwise as short as can be. -/
structure IsNumeral (width n : Nat) (ds : List Char) : Prop where
  /-- It has digits only. -/
  isDigit : ∀ c ∈ ds, IsDigit c
  /-- It has the value of the number. -/
  value_eq : value ds = n
  /-- It has the least number of digits. -/
  le_length : width ≤ ds.length
  /-- It has no more digits exactly for small numbers. -/
  length_eq_iff : ds.length = width ↔ n < 36 ^ width
  /-- For all other numbers it begins with no zero. -/
  head_ne : 36 ^ width ≤ n → ds.head? ≠ some '0'

theorem isNumeral_padded (k n : Nat) : IsNumeral (k + 1) n (padded (k + 1) n) where
  isDigit := by
    unfold padded
    rw [List.forall_mem_append]
    exact ⟨fun c hc => by rw [List.eq_of_mem_replicate hc]; exact Or.inl rfl,
      isDigit_of_mem_digits n⟩
  value_eq := value_padded (k + 1) n
  le_length := by
    simp only [padded, List.length_append, List.length_replicate]
    omega
  length_eq_iff := by
    rw [← length_digits_le_iff]
    simp only [padded, List.length_append, List.length_replicate]
    omega
  head_ne := by
    intro hlarge
    have hlong := (length_digits_le_iff n k).not.2 (by omega)
    have hpos : 0 < n := Nat.lt_of_lt_of_le (Nat.pow_pos (by decide)) hlarge
    have hfill : k + 1 - (digits n).length = 0 := by omega
    unfold padded
    dsimp only
    rw [hfill]
    exact head?_digits hpos

/-- Numerals of numbers below the power of the width have the order of the numbers. -/
theorem padded_lt_padded_iff (hm : m < 36 ^ (k + 1)) (hn : n < 36 ^ (k + 1)) :
    padded (k + 1) m < padded (k + 1) n ↔ m < n := by
  have hfirst := isNumeral_padded k m
  have hsecond := isNumeral_padded k n
  have hlength := (hfirst.length_eq_iff.2 hm).trans (hsecond.length_eq_iff.2 hn).symm
  rw [lt_iff_value_lt hfirst.isDigit hsecond.isDigit hlength, hfirst.value_eq, hsecond.value_eq]

end TenantFleet.Base36
