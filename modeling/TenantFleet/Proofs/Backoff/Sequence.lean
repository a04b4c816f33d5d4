/-
# The delays in minutes

A delay is the sum of the two before it, cut at the cap, and the next ones are made from what was
cut. So the delays fall behind the Fibonacci numbers, but only where they have come to the cap, and
there it makes no difference any more.

* `StandsFor` : that a number may be taken for another one below a cap;
* `Abreast` : that a sequence has come to two Fibonacci numbers;
* `current_iterate_advance` : the delay after any number of steps.
-/
import Mathlib.Data.Nat.Fib.Basic
import TenantFleet.Backoff

namespace TenantFleet.Backoff

variable {most n n' m m' : Nat} {b : Backoff}

/-! ## Cut numbers -/

/-- Whether a number stands for another one: it falls short of that only where it has come to the
cap. -/
structure StandsFor (most n m : Nat) : Prop where
  le : m ≤ n
  eq_or : m = n ∨ most ≤ m

namespace StandsFor

theorem refl (most n : Nat) : StandsFor most n n := ⟨Nat.le_refl n, Or.inl rfl⟩

/-- Sums stand for sums. -/
theorem add (h : StandsFor most n m) (h' : StandsFor most n' m') :
    StandsFor most (n + n') (m + m') := by
  refine ⟨Nat.add_le_add h.le h'.le, ?_⟩
  rcases h.eq_or with rfl | hmost
  · rcases h'.eq_or with rfl | hmost
    · exact Or.inl rfl
    · exact Or.inr (Nat.le_trans hmost (Nat.le_add_left m' m))
  · exact Or.inr (Nat.le_trans hmost (Nat.le_add_right m m'))

/-- Cutting at the cap does not tell the two apart. -/
theorem min_eq (h : StandsFor most n m) : min m most = min n most := by
  rcases h.eq_or with rfl | hmost
  · rfl
  · rw [Nat.min_eq_right hmost, Nat.min_eq_right (Nat.le_trans hmost h.le)]

/-- What was cut stands for the whole. -/
theorem cut (h : StandsFor most n m) : StandsFor most n (min m most) := by
  refine ⟨Nat.le_trans (Nat.min_le_left m most) h.le, ?_⟩
  rcases h.eq_or with rfl | hmost
  · omega
  · exact Or.inr (Nat.le_of_eq (Nat.min_eq_right hmost).symm)

end StandsFor

/-! ## Sequences -/

/-- Whether the delays of a sequence stand for two Fibonacci numbers that follow each other. -/
structure Abreast (n : Nat) (b : Backoff) : Prop where
  previous : StandsFor b.most (Nat.fib n * b.least) b.previous
  current : StandsFor b.most (Nat.fib (n + 1) * b.least) b.current

theorem abreast_start (least most : Nat) : Abreast 0 (start least most) where
  previous := by
    rw [Nat.fib_zero, Nat.zero_mul]
    exact .refl most 0
  current := by
    rw [Nat.fib_one, Nat.one_mul]
    exact .refl most least

/-- The next delay is the next Fibonacci number, cut at the cap. -/
theorem Abreast.current_advance (h : Abreast n b) :
    b.advance.current = min (Nat.fib (n + 2) * b.least) b.most := by
  rw [Nat.fib_add_two, Nat.add_mul]
  exact (h.previous.add h.current).min_eq

/-- A step comes to the next two Fibonacci numbers. -/
theorem Abreast.advance (h : Abreast n b) : Abreast (n + 1) b.advance where
  previous := h.current
  current := by
    rw [h.current_advance]
    exact (StandsFor.refl b.most _).cut

/-- A number of steps comes to as many Fibonacci numbers behind the first. -/
theorem abreast_iterate (least most n : Nat) :
    Abreast n (Backoff.advance^[n] (start least most)) ∧
      (Backoff.advance^[n] (start least most)).least = least ∧
      (Backoff.advance^[n] (start least most)).most = most := by
  induction n with
  | zero => exact ⟨abreast_start least most, rfl, rfl⟩
  | succ n ih =>
    obtain ⟨habreast, hleast, hmost⟩ := ih
    rw [Function.iterate_succ_apply']
    exact ⟨habreast.advance, hleast, hmost⟩

/-- Every delay but the first is a Fibonacci number, cut at the cap. -/
theorem current_iterate_succ (least most n : Nat) :
    (Backoff.advance^[n + 1] (start least most)).current = min (Nat.fib (n + 2) * least) most := by
  obtain ⟨habreast, hleast, hmost⟩ := abreast_iterate least most n
  rw [Function.iterate_succ_apply', habreast.current_advance, hleast, hmost]

/-- Every delay is a Fibonacci number, cut at the cap, unless the first one is above the cap. -/
theorem current_iterate_advance {least most : Nat} (h : least ≤ most) (n : Nat) :
    (Backoff.advance^[n] (start least most)).current = min (Nat.fib (n + 1) * least) most := by
  cases n with
  | zero =>
    rw [Nat.fib_one, Nat.one_mul, Nat.min_eq_left h]
    rfl
  | succ n => exact current_iterate_succ least most n

end TenantFleet.Backoff
