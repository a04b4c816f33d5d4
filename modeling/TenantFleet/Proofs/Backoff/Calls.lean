/-
# Delays between restarts

A backoff is asked for delays and is restarted in any order. It stands where the delays since the
last restart have brought it, so each delay is the Fibonacci number of its place in that row, cut at
the cap. The numbers on the way stay so small that 64 bits hold them when they hold the larger of
the first delay and the cap in seconds.

* `Ask` and `after` : what is done with a backoff, and what comes of it;
* `given` : the delays since the last restart;
* `delay_eq` : the delay after any asks;
* `next_capped` : the numbers that are made, the delays and their order.
-/
import Mathlib.Data.List.DropRight
import TenantFleet.Proofs.Backoff.Sequence

namespace TenantFleet.Backoff

variable {least most : Nat}

/-! ## Asks -/

/-- What is done with a backoff. -/
inductive Ask
  | next
  | reset
  deriving DecidableEq

/-- The backoff after an ask. -/
def take (b : Backoff) : Ask → Backoff
  | .next => b.next.2
  | .reset => b.reset

/-- A new backoff after some asks. -/
def after (least most : Nat) (asks : List Ask) : Backoff := asks.foldl take (start least most)

/-- The delays that were given since the last restart. -/
def given (asks : List Ask) : Nat := (asks.rtakeWhile (· = .next)).length

/-- The delay in seconds that is given after some asks. -/
def delay (least most : Nat) (asks : List Ask) : Nat := (after least most asks).next.1

theorem given_append_next (asks : List Ask) (n : Nat) :
    given (asks ++ List.replicate n .next) = given asks + n := by
  induction n with
  | zero => rw [List.replicate_zero, List.append_nil, Nat.add_zero]
  | succ n ih =>
    rw [List.replicate_succ', ← List.append_assoc]
    unfold given at ih ⊢
    rw [List.rtakeWhile_concat_pos _ _ _ (by decide), List.length_append, ih]
    rfl

theorem given_concat_reset (asks : List Ask) : given (asks ++ [.reset]) = 0 := by
  unfold given
  rw [List.rtakeWhile_concat_neg _ _ _ (by decide)]
  rfl

/-- A backoff stands where the delays since the last restart have brought it. -/
theorem after_eq (least most : Nat) (asks : List Ask) :
    after least most asks = Backoff.advance^[given asks] (start least most) := by
  induction asks using List.reverseRecOn with
  | nil => rfl
  | append_singleton asks ask ih =>
    have hafter : after least most (asks ++ [ask]) = (after least most asks).take ask := by
      unfold after
      rw [List.foldl_concat]
    rw [hafter, ih]
    cases ask with
    | next =>
      have hgiven : given (asks ++ [.next]) = given asks + 1 := given_append_next asks 1
      rw [hgiven, Function.iterate_succ_apply']
      rfl
    | reset =>
      -- The bounds never change, so that the restarted sequence is a new one.
      obtain ⟨-, hleast, hmost⟩ := abreast_iterate least most (given asks)
      rw [given_concat_reset]
      unfold take reset
      rw [hleast, hmost]
      generalize Backoff.advance^[given asks] (start least most) = b at hleast hmost ⊢
      subst hleast hmost
      rfl

/-! ## Numbers and delays -/

/-- The number that is given next. -/
theorem current_iterate (least most n : Nat) :
    (Backoff.advance^[n] (start least most)).current = if n = 0 then least else min
    (Nat.fib (n + 1) * least) most := by
  cases n with
  | zero => rfl
  | succ n => exact current_iterate_succ least most n

/-- No number is above both the first delay and the cap. -/
theorem current_le (least most n : Nat) :
    (Backoff.advance^[n] (start least most)).current ≤ max least most := by
  rw [current_iterate]
  split
  · exact Nat.le_max_left least most
  · exact Nat.le_trans (Nat.min_le_right _ _) (Nat.le_max_right least most)

theorem previous_le (least most n : Nat) :
    (Backoff.advance^[n] (start least most)).previous ≤ max least most := by
  cases n with
  | zero => exact Nat.zero_le _
  | succ n =>
    rw [Function.iterate_succ_apply']
    exact current_le least most n

/-- The first delay is the least, each other one the Fibonacci number of its place, cut at the
cap. -/
theorem delay_eq (least most : Nat) (asks : List Ask) :
    delay least most asks =
      60 * if given asks = 0 then least else min most (Nat.fib (given asks + 1) * least) := by
  unfold delay next
  rw [after_eq, current_iterate, Nat.mul_comm, Nat.min_comm]

/-- Under the cap the first delay is the first Fibonacci number like the others. -/
theorem delay_eq_fib (h : least ≤ most) (asks : List Ask) :
    delay least most asks = 60 * min most (Nat.fib (given asks + 1) * least) := by
  unfold delay next
  rw [after_eq, current_iterate_advance h, Nat.mul_comm, Nat.min_comm]

/-- When 64 bits hold the first delay and the cap in seconds they hold all that is made, whatever is
asked. The first delay since the last restart is the least, the others are Fibonacci numbers cut at
the cap. If the least is within the cap then delays do not fall until the next restart, no delay is
above the cap, and one that has come to the cap is followed by the same. -/
theorem next_capped {least most : Nat} (h : 60 * max least most < Nat.pow 2 64) :
    (∀ asks, (after least most asks).current * 60 < Nat.pow 2 64 ∧
      (after least most asks).previous + (after least most asks).current < Nat.pow 2 64 ∧
      (given asks = 0 → delay least most asks = 60 * least) ∧
      ∀ k, 2 ≤ k → given asks + 1 = k → delay least most asks = 60 * min most (Nat.fib k * least)) ∧
    (least ≤ most → ∀ asks,
      delay least most asks ≤ 60 * most ∧
      ∀ n, delay least most asks ≤ delay least most (asks ++ List.replicate n .next) ∧
        (delay least most asks = 60 * most →
          delay least most (asks ++ List.replicate n .next) = 60 * most)) := by
  refine ⟨fun asks => ⟨?_, ?_, fun hfirst => ?_, fun k hk hgiven => ?_⟩, fun hle asks =>
    ⟨?_, fun n => ?_⟩⟩
  · have hcurrent := current_le least most (given asks)
    rw [after_eq]
    omega
  · have hcurrent := current_le least most (given asks)
    have hprevious := previous_le least most (given asks)
    rw [after_eq]
    omega
  · rw [delay_eq, if_pos hfirst]
  · rw [delay_eq, if_neg (by omega), hgiven]
  · rw [delay_eq_fib hle]
    exact Nat.mul_le_mul_left 60 (Nat.min_le_left most _)
  · have hfib := Nat.mul_le_mul_right least
      (Nat.fib_mono (by omega : given asks + 1 ≤ given asks + n + 1))
    rw [delay_eq_fib hle, delay_eq_fib hle, given_append_next]
    omega

/-- From one minute up to ten: five delays, a restart, and ten delays more, the last ones at the
cap. -/
theorem next_capped_ten :
    60 * max 1 10 < Nat.pow 2 64 ∧ delay 1 10 (List.replicate 4 .next) = 300 ∧
      delay 1 10 (List.replicate 5 .next ++ [.reset]) = 60 ∧
      delay 1 10 (List.replicate 5 .next ++ [.reset] ++ List.replicate 6 .next) = 600 ∧
      delay 1 10 (List.replicate 5 .next ++ [.reset] ++ List.replicate 6 .next ++
        List.replicate 4 .next) = 600 := by
  have hsmall : 60 * max 1 10 < Nat.pow 2 64 := by decide
  obtain ⟨hdelays, hrow⟩ := next_capped hsmall
  have hcap : delay 1 10 (List.replicate 5 .next ++ [.reset] ++ List.replicate 6 .next) = 600 :=
    (hdelays _).2.2.2 7 (by decide) (by decide)
  exact ⟨hsmall, (hdelays _).2.2.2 5 (by decide) (by decide), (hdelays _).2.2.1 (by decide), hcap,
    ((hrow (by decide) _).2 4).2 hcap⟩

end TenantFleet.Backoff
