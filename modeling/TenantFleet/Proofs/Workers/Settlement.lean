/-
# How the workers settle

The workers submit the deployment of their pool and observe it. They are settled as soon as it
succeeded; but before they look for changes only, the old workers are replaced, and the deployment
is looked at again.

* `WorkersStage.phase` : the phase of a stage;
* `keepsStatus_stage` : no stage makes a write;
* `settling_stage` : what a stage does about the deployment.
-/
import TenantFleet.Workers.Pass
import TenantFleet.Proofs.Pass.Settlement

namespace TenantFleet

open Program

/-- How far the workers are with their deployment in a stage. -/
def WorkersStage.phase : WorkersStage → Phase
  | .empty | .deploymentUninitialized => .unsettled
  | .deploymentInitialized => .submitted
  | .scaleUp | .cordonOldWorkers | .waitForWorkersToBecomeReady | .scaleDown
  | .deploymentCompleted => .settled

namespace Workers

variable {groups : ResourceGroup → Prop} {x : Scope} {s : HandlerState}
  {source target : WorkersStage} {o : Outcome WorkersStage} {trace : List Asked}

/-! ## The calls of the stages -/

theorem keepsStatus_usableTenant (x : Scope) : Asks Call.keepsStatus (usableTenant? x) := by
  refine .bind (.call (by trivial)) fun cluster => ?_
  cases cluster with
  | none => trivial
  | some cluster =>
    dsimp only
    split
    · trivial
    · exact .bind (.call (by trivial)) fun _ => trivial

theorem keepsStatus_survey (x : Scope) (tenant : Tenant) :
    Asks Call.keepsStatus (survey x tenant) :=
  .bind (.groupCall (by trivial)) fun _ => .bind (.groupCall (by trivial)) fun _ =>
    .bind (.call (by trivial)) fun _ => trivial

theorem keepsStatus_rescale (x : Scope) (scaleSet : ScaleSet) (capacity : Int) (autoscaler : Bool) :
    Asks Call.keepsStatus (rescale x scaleSet capacity autoscaler) :=
  .bind (.groupCall (by trivial)) fun _ => .groupCall (by trivial)

theorem keepsStatus_observeDeployment (g : ResourceGroup) (name : String) :
    Asks Call.keepsStatus (observeDeployment g name) := by
  refine .bind (.find? (by trivial)) fun found => ?_
  cases found <;> trivial

theorem keepsStatus_allRunning (x : Scope) (l : List Instance) :
    Asks Call.keepsStatus (allRunning x l) := by
  induction l with
  | nil => trivial
  | cons v rest ih =>
    unfold allRunning
    split
    · refine .bind (.groupCall (by trivial)) fun view => ?_
      split
      · exact ih
      · trivial
    · trivial

theorem keepsStatus_scaleUp (x : Scope) (s : HandlerState) :
    Asks Call.keepsStatus (Workers.scaleUp x s) := by
  unfold Workers.scaleUp
  dsimp only
  split
  · trivial
  refine .bind (.groupCall (by trivial)) fun l =>
    .bind (keepsStatus_allRunning x l) fun running => ?_
  split
  · refine .bind (keepsStatus_observeDeployment _ _) fun state => ?_
    cases state with
    | failed => trivial
    | missing => trivial
    | running => trivial
    | succeeded =>
      refine .bind (keepsStatus_usableTenant x) fun tenant => ?_
      cases tenant with
      | none => trivial
      | some tenant =>
        refine .bind (keepsStatus_survey x tenant) fun surveyed => ?_
        split
        · exact .bind (keepsStatus_rescale x _ _ _) fun _ => trivial
        · trivial
  · trivial

theorem keepsStatus_unlessMissing (r : Except TenantError Unit) :
    Asks Call.keepsStatus (Tenant.unlessMissing r) := by
  cases r with
  | ok _ => trivial
  | error e =>
    unfold Tenant.unlessMissing
    dsimp only
    split <;> trivial

theorem keepsStatus_cordonOld (x : Scope) : Asks Call.keepsStatus (cordonOld x) := by
  refine .bind (keepsStatus_usableTenant x) fun tenant => ?_
  cases tenant with
  | none => trivial
  | some tenant =>
    refine .bind (keepsStatus_survey x tenant) fun surveyed => ?_
    dsimp only
    split
    · trivial
    · refine .bind (.forEach fun w => ?_) fun _ => trivial
      unfold cordonWorker
      split
      · trivial
      · exact ⟨by trivial, keepsStatus_unlessMissing⟩

theorem keepsStatus_awaitReady (x : Scope) : Asks Call.keepsStatus (awaitReady x) := by
  refine .bind (keepsStatus_usableTenant x) fun tenant => ?_
  cases tenant with
  | none => trivial
  | some tenant =>
    refine .bind (keepsStatus_survey x tenant) fun surveyed => ?_
    dsimp only
    split <;> trivial

theorem keepsStatus_scaleDown (x : Scope) : Asks Call.keepsStatus (Workers.scaleDown x) := by
  refine .bind (keepsStatus_usableTenant x) fun tenant => ?_
  cases tenant with
  | none => trivial
  | some tenant =>
    have hremove : ∀ w, Asks Call.keepsStatus (removeWorker x tenant w) := fun w =>
      .bind ⟨by trivial, keepsStatus_unlessMissing⟩ fun _ => trivial
    have hdelete : ∀ ids, Asks Call.keepsStatus (deleteInstances x ids) := by
      intro ids
      unfold deleteInstances
      split
      · trivial
      · exact .bind (.groupCall (by trivial)) fun _ => .groupCall (by trivial)
    exact .bind (keepsStatus_survey x tenant) fun _ => .bind (.forEach hremove) fun _ =>
      .bind (hdelete _) fun _ => .bind (.groupCall (by trivial)) fun _ =>
        .bind (keepsStatus_rescale x _ _ _) fun _ => trivial

/-- No stage makes a write. -/
theorem keepsStatus_stage (x : Scope) (s : HandlerState) (source : WorkersStage) :
    Asks Call.keepsStatus (stage x s source) := by
  have hkeeping : ∀ {p}, Asks Call.keepsStatus p → Asks Call.keepsStatus (keeping s p) :=
    fun hp => hp.bind fun _ => trivial
  cases source with
  | empty => trivial
  | deploymentUninitialized =>
    refine .bind (.call (by trivial)) fun t => .bind ?_ fun result => trivial
    unfold submitIfChanged
    split
    · trivial
    · exact .bind (.groupCall (by trivial)) fun _ => trivial
  | deploymentInitialized =>
    refine .bind (keepsStatus_observeDeployment _ _) fun state => ?_
    cases state <;> trivial
  | scaleUp => exact keepsStatus_scaleUp x s
  | cordonOldWorkers => exact hkeeping (keepsStatus_cordonOld x)
  | waitForWorkersToBecomeReady => exact hkeeping (keepsStatus_awaitReady x)
  | scaleDown => exact hkeeping (keepsStatus_scaleDown x)
  | deploymentCompleted =>
    refine .bind (.call (by trivial)) fun t => ?_
    split <;> trivial

/-! ## What the stages do about the deployment -/

/-- A stage that leaves the map ends with it. -/
theorem state_of_keeping {p : Program (Transition WorkersStage)}
    (h : Yields (keeping s p) trace o) :
    o.state = s := by
  obtain ⟨t, before, after, rfl, -, hend⟩ := yields_bind.1 h
  cases (yields_done.1 hend).2
  rfl

/-- Submitting leads from an unsettled stage to one that is not. -/
theorem settling_submit (hg : groups x.group) (h : Yields (submit x s) trace o) :
    Settling groups x.scaleSet s .unsettled o.transition.stage.phase o.state trace := by
  obtain ⟨t, before, after, rfl, -, h⟩ := yields_bind.1 h
  obtain ⟨⟨submitted, s'⟩, own, rest, rfl, hsubmit, hend⟩ := yields_bind.1 h
  cases (yields_done.1 hend).2
  have hsub : own ⊆ before ++ (own ++ rest) :=
    List.Subset.trans (List.subset_append_left own rest) (List.subset_append_right _ _)
  have hsettling := (settling_submitIfChanged hg hsubmit).mono hsub
  cases submitted <;> exact hsettling

/-- Observing leads to a settled stage only when the deployment has succeeded. -/
theorem settling_observe (hg : groups x.group) (h : Yields (observe x s) trace o) :
    Settling groups x.scaleSet s .submitted o.transition.stage.phase o.state trace := by
  obtain ⟨state, own, rest, rfl, hobserve, hend⟩ := yields_bind.1 h
  have hsettling := (settling_observeDeployment (s := s) hg hobserve).mono
    (List.subset_append_left own rest)
  cases state <;> (cases (yields_done.1 hend).2; exact hsettling)

/-- Doubling the scale set leaves the map, unless the deployment is forgotten. -/
theorem settling_scaleUp (h : Yields (Workers.scaleUp x s) trace o) :
    Settling groups x.scaleSet s .settled o.transition.stage.phase o.state trace := by
  have hstay : ∀ {own : List Asked}, Yields (.done (.ok ⟨x.stay .scaleUp, s⟩)) own o →
      ∀ {trace}, Settling groups x.scaleSet s .settled o.transition.stage.phase o.state trace := by
    intro own h
    cases (yields_done.1 h).2
    exact .stays
  unfold Workers.scaleUp at h
  dsimp only at h
  split at h
  · exact hstay h
  obtain ⟨l, _, _, rfl, -, h⟩ := yields_bind.1 h
  obtain ⟨running, _, _, rfl, -, h⟩ := yields_bind.1 h
  split at h
  · obtain ⟨state, _, _, rfl, -, h⟩ := yields_bind.1 h
    cases state with
    | failed =>
      cases (yields_done.1 h).2
      exact .forgot
    | missing =>
      cases (yields_done.1 h).2
      exact .forgot
    | running => exact hstay h
    | succeeded =>
      obtain ⟨tenant, _, _, rfl, -, h⟩ := yields_bind.1 h
      cases tenant with
      | none => exact hstay h
      | some tenant =>
        obtain ⟨surveyed, _, _, rfl, -, h⟩ := yields_bind.1 h
        split at h
        · obtain ⟨_, _, _, rfl, -, h⟩ := yields_bind.1 h
          exact hstay h
        · cases (yields_done.1 h).2
          exact .stays
  · exact hstay h

/-- Looking for changes leaves the map. -/
theorem state_of_settle (h : Yields (settle x s) trace o) : o.state = s := by
  obtain ⟨t, before, after, rfl, -, hend⟩ := yields_bind.1 h
  split at hend <;> (cases (yields_done.1 hend).2; rfl)

/-- What a stage of the workers does about the deployment. -/
theorem settling_stage (hg : groups x.group) (h : Yields (stage x s source) trace o)
    (hfollows : Stage.follows source o.transition.stage = true) :
    Settling groups x.scaleSet s source.phase o.transition.stage.phase o.state trace := by
  cases source with
  | empty =>
    cases (yields_done.1 h).2
    exact .stays
  | deploymentUninitialized => exact settling_submit hg h
  | deploymentInitialized => exact settling_observe hg h
  | scaleUp => exact settling_scaleUp h
  | deploymentCompleted => exact .of_follows (by decide) hfollows (state_of_settle h)
  | _ => exact .of_follows (by decide) hfollows (state_of_keeping h)

end Workers

end TenantFleet
