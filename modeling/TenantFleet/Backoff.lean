/-
# Backoff after failures

The delay before a failed pass is repeated grows like the Fibonacci numbers, in minutes, up to a
cap. Every object has a backoff of its own, which a success restarts.

* `Backoff.next` : the delay in seconds and the backoff after it;
* `Backoffs.failed` and `Backoffs.succeeded` : the backoffs of all objects.
-/
import TenantFleet.Data.Dict

namespace TenantFleet

/-- Where a capped Fibonacci sequence of minutes stands. -/
structure Backoff where
  /-- The first delay. -/
  least : Nat
  /-- The delay before the current one. -/
  previous : Nat
  /-- The delay that is given next. -/
  current : Nat
  /-- The cap. -/
  most : Nat
  deriving DecidableEq, Inhabited

namespace Backoff

/-- The sequence from `least` up to `most` minutes. -/
def start (least most : Nat) : Backoff := ⟨least, 0, least, most⟩

/-- The sequence after its current delay. -/
def advance (b : Backoff) : Backoff :=
  { b with previous := b.current, current := min (b.previous + b.current) b.most }

/-- The current delay in seconds and the sequence after it. -/
def next (b : Backoff) : Nat × Backoff := (b.current * 60, b.advance)

/-- The sequence from its start. -/
def reset (b : Backoff) : Backoff := { b with previous := 0, current := b.least }

@[simp] theorem reset_start (least most : Nat) : (start least most).reset = start least most := rfl

@[simp] theorem least_advance (b : Backoff) : b.advance.least = b.least := rfl

@[simp] theorem most_advance (b : Backoff) : b.advance.most = b.most := rfl

end Backoff

/-! ## The backoffs of all objects -/

/-- The failures of one object since its last success. -/
structure FailureCount where
  /-- The delays. -/
  backoff : Backoff := .start 1 10
  /-- The number of failures, in 32 bits: the one behind the largest is 0 again. -/
  count : UInt32 := 0
  deriving DecidableEq, Inhabited

/-- The failures of the objects, by key. -/
abbrev Backoffs := Dict FailureCount

namespace Backoffs

/-- The failures of an object. -/
def of (b : Backoffs) (key : String) : FailureCount := b.getD key {}

/-- Counts a failure. -/
def failed (b : Backoffs) (key : String) : Backoffs :=
  let s := b.of key
  b.insert key { s with count := s.count + 1 }

/-- The delay in seconds and the number of failures; the next delay is further. -/
def delay (b : Backoffs) (key : String) : (Nat × Nat) × Backoffs :=
  let s := b.of key
  let (seconds, backoff) := s.backoff.next
  ((seconds, s.count.toNat), b.insert key { s with backoff := backoff })

/-- Restarts an object that has failed before. -/
def succeeded (b : Backoffs) (key : String) : Backoffs :=
  b.modify key fun s => { s with backoff := s.backoff.reset, count := 0 }

end Backoffs

end TenantFleet
