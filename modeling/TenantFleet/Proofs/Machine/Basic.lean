/-
# The machines of a tenant cluster

The masters of a cluster and the workers of each pool are driven by machines of one design: they
keep their stage with what else they have to know in the status of an object, under a name of their
own.

* `Machine.stateIn` : the map of a machine in the document of its object;
* `Machine.Follows` : that the stage of a map may come after that of another one.
-/
import TenantFleet.Proofs.Pass.Moment
import TenantFleet.Proofs.Stage.Status

namespace TenantFleet

/-- The machines of a tenant cluster. -/
inductive Machine
  /-- The masters of a cluster. -/
  | masters
  /-- The workers of a pool. -/
  | workers
  deriving DecidableEq

namespace Machine

/-- The name that the map of a machine is kept under. -/
def handler : Machine → String
  | masters => Masters.handler
  | workers => Workers.handler

/-- The kind of the objects that a machine keeps its map in. -/
def kind : Machine → TargetKind
  | masters => .azureConfig
  | workers => .azureMachinePool

/-- The map of a machine in the document of its object. -/
def stateIn (m : Machine) (x : Json) : HandlerState :=
  HandlerState.load (m.kind.mapsIn x.written).join m.handler

/-- Whether the stage of a map is that of another one, or a successor of it. -/
def Follows : Machine → HandlerState → HandlerState → Prop
  | masters, s, s' => Stage.follows (s.stage MastersStage) (s'.stage MastersStage) = true
  | workers, s, s' => Stage.follows (s.stage WorkersStage) (s'.stage WorkersStage) = true

/-- A stage may stay. -/
theorem Follows.refl (m : Machine) (s : HandlerState) : m.Follows s s := by
  cases m with
  | masters => exact follows_self _
  | workers => exact follows_self _

/-- What follows is told by the names of the stages. -/
theorem Follows.congr {m : Machine} {s s₁ s₂ : HandlerState} (h : m.Follows s s₁)
    (hname : s₂.values.get? HandlerState.stageKey = s₁.values.get? HandlerState.stageKey) :
    m.Follows s s₂ := by
  have hstage : ∀ (σ : Type) [Stage σ], s₂.stage σ = s₁.stage σ := by
    intro σ _
    unfold HandlerState.stage
    rw [hname]
  cases m with
  | masters =>
    show Stage.follows _ (s₂.stage MastersStage) = true
    rw [hstage]
    exact h
  | workers =>
    show Stage.follows _ (s₂.stage WorkersStage) = true
    rw [hstage]
    exact h

end Machine

end TenantFleet
