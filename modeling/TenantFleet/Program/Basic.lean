/-
# Programs

A pass is a program: it is done, or notes an event and goes on, or asks for something and goes on
with the answer, whatever it is. A program alone does nothing; a handler answers its calls from a
world, which changes with them. So what holds of a program for all answers holds in every world.

* `Program.call` and `Program.attempt` : a call whose failure ends the program, or is looked at;
* `Program.run` : a program in a world.
-/
import TenantFleet.Call.Basic
import TenantFleet.Metrics.Basic

namespace TenantFleet

/-- A program with a result of the given type. -/
inductive Program (α : Type) : Type
  /-- The program has ended, well or badly. -/
  | done (result : Except Error α)
  /-- The program reports an event and goes on. -/
  | note (event : Event) (rest : Program α)
  /-- The program makes a call and goes on with its result. -/
  | ask (call : Call) (resume : Except call.Failure call.Answer → Program α)

namespace Program

variable {α β γ : Type}

instance [Inhabited α] : Inhabited (Program α) := ⟨done (.ok default)⟩

/-- The first program, then the one that its result leads to; a failure ends both. -/
def bind : Program α → (α → Program β) → Program β
  | done (.ok a), next => next a
  | done (.error e), _ => done (.error e)
  | note event rest, next => note event (rest.bind next)
  | ask call resume, next => ask call fun r => (resume r).bind next

instance : Monad Program where
  pure a := done (.ok a)
  bind := bind

@[simp] theorem pure_eq (a : α) : (pure a : Program α) = done (.ok a) := rfl

@[simp] theorem bind_eq (p : Program α) (next : α → Program β) : p >>= next = p.bind next := rfl

/-- Doing nothing behind a program changes nothing. -/
theorem bind_done (p : Program α) : (p.bind fun a => done (.ok a)) = p := by
  induction p with
  | done r => cases r <;> rfl
  | note event rest ih => simp only [bind, ih]
  | ask call resume ih => simp only [bind, ih]

/-- Three programs in a row need no brackets. -/
theorem bind_assoc (p : Program α) (f : α → Program β) (g : β → Program γ) :
    (p.bind f).bind g = p.bind fun a => (f a).bind g := by
  induction p with
  | done r => cases r <;> rfl
  | note event rest ih => simp only [bind, ih]
  | ask call resume ih => simp only [bind, ih]

instance : LawfulMonad Program :=
  LawfulMonad.mk' Program (fun p => bind_done p) (fun _ _ => rfl) bind_assoc

/-! ## Steps -/

/-- The program that fails. -/
def fail (e : Error) : Program α := done (.error e)

/-- The program that goes on with a result or fails. -/
def ofExcept (r : Except Error α) : Program α := done r

/-- The program that reports an event. -/
def report (event : Event) : Program Unit := note event (done (.ok ()))

/-- A call whose result is looked at. -/
def attempt (c : Call) : Program (Except c.Failure c.Answer) := ask c fun r => done (.ok r)

/-- A call whose failure ends the program. -/
def call (c : Call) : Program c.Answer := ask c fun r => done (r.mapError c.raise)

/-- A program for each item of a list, one after the other. -/
def forEach : List α → (α → Program Unit) → Program Unit
  | [], _ => done (.ok ())
  | a :: rest, step => (step a).bind fun _ => forEach rest step

end Program

/-! ## Worlds -/

/-- How a world answers calls and takes note of events. -/
structure Handler (ω : Type) where
  /-- The result of a call and the world after it. -/
  answer : (c : Call) → ω → Except c.Failure c.Answer × ω
  /-- The world after an event. -/
  note : Event → ω → ω

namespace Program

variable {α β ω : Type}

/-- The result of a program in a world, and the world after it. -/
def run (h : Handler ω) : Program α → ω → Except Error α × ω
  | done r, w => (r, w)
  | note event rest, w => run h rest (h.note event w)
  | ask c resume, w => run h (resume (h.answer c w).1) (h.answer c w).2

/-- Running two programs in a row is running the second in the world that the first one left. -/
theorem run_bind (h : Handler ω) (p : Program α) (next : α → Program β) (w : ω) :
    run h (p.bind next) w =
      match run h p w with
      | (.ok a, w') => run h (next a) w'
      | (.error e, w') => (.error e, w') := by
  induction p generalizing w with
  | done r => cases r <;> rfl
  | note event rest ih => exact ih _
  | ask c resume ih => exact ih _ _

end Program

end TenantFleet
