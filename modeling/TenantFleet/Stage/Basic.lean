/-
# Stages and transitions

A machine that is driven in stages keeps the name of its stage in the status of its object. Each
stage lists the stages that may follow it; whoever runs a stage answers with the next one and, when
it waits for something, with the delay before the next pass.

* `Transition.validate` : whether the table allows a transition.
-/
import TenantFleet.Error

namespace TenantFleet

/-- The stages of a machine. -/
class Stage (σ : Type) where
  /-- Stages can be told apart. -/
  decEq : DecidableEq σ
  /-- The stage of an object that was never seen. -/
  initial : σ
  /-- All stages. -/
  all : List σ
  /-- The name that is kept in the status. -/
  name : σ → String
  /-- The stages that may follow, besides the stage itself. -/
  successors : σ → List σ

namespace Stage

variable {σ : Type} [Stage σ]

instance (priority := low) : DecidableEq σ := decEq

/-- The stage of a name; the initial one for names of no stage. -/
def ofName (s : String) : σ := (all.find? (fun x : σ => name x = s)).getD initial

/-- The name for readers: the initial stage has an empty name in the status. -/
def title (s : σ) : String := if (name s).isEmpty then "Empty" else name s

/-- Whether a stage may come after another one: the same or a successor. -/
def follows (source target : σ) : Bool := target = source || target ∈ successors source

end Stage

/-- The outcome of a stage. -/
structure Transition (σ : Type) where
  /-- The stage to keep. -/
  stage : σ
  /-- The delay in seconds before the next pass, when the stage waits. -/
  delay : Option Nat := none
  deriving Inhabited

namespace Transition

variable {σ : Type}

/-- The delay in seconds after a stage that does not wait. -/
def advanceDelay : Nat := 1

/-- Go on with a stage at once. -/
def advance (stage : σ) : Transition σ := ⟨stage, none⟩

/-- Be in a stage and come back later. -/
def wait (stage : σ) (delay : Nat) : Transition σ := ⟨stage, some delay⟩

/-- Whether the stage waits. -/
def waits (t : Transition σ) : Bool := t.delay.isSome

/-- The delay in seconds before the next pass. -/
def requeue (t : Transition σ) : Nat := t.delay.getD advanceDelay

/-- Refuses a transition that the table does not have. -/
def validate [Stage σ] (t : Transition σ) (source : σ) : Except Error Unit :=
  if Stage.follows source t.stage then .ok ()
  else .error (.invalidTransition (Stage.name source) (Stage.name t.stage))

/-- A transition is accepted exactly when its stage follows. -/
theorem validate_eq_ok_iff [Stage σ] (t : Transition σ) (source : σ) :
    t.validate source = .ok () ↔ Stage.follows source t.stage = true := by
  unfold validate
  split <;> simp_all

end Transition

end TenantFleet
