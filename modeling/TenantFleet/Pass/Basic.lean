/-
# Passes of a machine

A pass runs the stage that its object is in and keeps the outcome: the transition must be one of the
table, the map is written bound to the version it was read at, and a change of stage is counted. A
write that lost against another one changes nothing and is tried again later.

* `persist` : keeps an outcome and gives the delay before the next pass;
* `Outcome` : a transition with the map that goes with it.
-/
import TenantFleet.Program.Service
import TenantFleet.Settings.Basic

namespace TenantFleet

/-- What a stage ends with: a transition and the map of the handler. -/
structure Outcome (σ : Type) where
  /-- The transition. -/
  transition : Transition σ
  /-- The map, without the transition. -/
  state : HandlerState

namespace Outcome

variable {σ : Type}

/-- Go on with a stage at once. -/
def advance (stage : σ) (s : HandlerState) : Outcome σ := ⟨.advance stage, s⟩

/-- Be in a stage and come back later. -/
def wait (stage : σ) (delay : Nat) (s : HandlerState) : Outcome σ := ⟨.wait stage delay, s⟩

end Outcome

/-- The event of a change of stage, if there is one. -/
def changeOf {σ : Type} [Stage σ] (handler : String) (source target : σ) : Program Unit :=
  if target = source then return ()
  else Program.report (.transition handler (Stage.name source) (Stage.name target))

/-- Keeps the outcome of a stage and gives the delay in seconds before the next pass. -/
def persist {σ : Type} [Stage σ] (settings : PassSettings) (now : Timestamp) (handler : String)
    (target : StatusTarget) (source : σ) (outcome : Outcome σ) : Program Nat := do
  Program.ofExcept (outcome.transition.validate source)
  let kept := outcome.state.after outcome.transition now
  match ← Program.attempt (.saveStatus target handler kept.values) with
  | .error e => if e.isConflict then return settings.wait else Program.fail e
  | .ok _ =>
    changeOf handler source outcome.transition.stage
    return outcome.transition.requeue

end TenantFleet
