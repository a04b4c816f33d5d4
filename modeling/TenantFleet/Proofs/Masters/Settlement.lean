/-
# How the masters settle

The masters submit one deployment and observe it. The stages before it is submitted are unsettled,
and those after it succeeded are settled, up to the one that looks for changes.

* `MastersStage.phase` : the phase of a stage;
* `settling_stage` : what a stage does about the deployment.
-/
import TenantFleet.Proofs.Masters.Stages

namespace TenantFleet

open Program

/-- How far the masters are with their deployment in a stage. -/
def MastersStage.phase : MastersStage → Phase
  | .empty | .backupEtcdDisk | .waitForMastersToDrain | .stopMasters | .ensureSnapshot
  | .deploymentUninitialized => .unsettled
  | .deploymentInitialized => .submitted
  | .provisioningSuccessful | .etcdMigrationCheck | .updateMaster | .reimageMaster | .startMaster
  | .clusterUpgradeRequirementCheck | .masterInstancesUpgrading | .waitForMastersToBecomeReady
  | .deploymentCompleted => .settled

namespace Masters

variable {groups : ResourceGroup → Prop} {settings : PassSettings} {c : AzureConfig}
  {s : HandlerState} {source target : MastersStage} {o : Outcome MastersStage} {trace : List Asked}

/-- Submitting leads from an unsettled stage to one that is not. -/
theorem settling_submit (hg : groups c.group) (h : Yields (submit settings c s) trace o) :
    Settling groups Name.mastersDeployment s .unsettled o.transition.stage.phase o.state trace := by
  obtain ⟨t, before, after, rfl, -, h⟩ := yields_bind.1 h
  obtain ⟨⟨submitted, s'⟩, own, rest, rfl, hsubmit, hend⟩ := yields_bind.1 h
  cases (yields_done.1 hend).2
  have hsub : own ⊆ before ++ (own ++ rest) :=
    List.Subset.trans (List.subset_append_left own rest) (List.subset_append_right _ _)
  have hsettling := (settling_submitIfChanged hg hsubmit).mono hsub
  cases submitted <;> exact hsettling

/-- Observing leads to a settled stage only when the deployment has succeeded. -/
theorem settling_observe (hg : groups c.group) (h : Yields (observe settings c s) trace o) :
    Settling groups Name.mastersDeployment s .submitted o.transition.stage.phase o.state trace := by
  obtain ⟨state, own, rest, rfl, hobserve, hend⟩ := yields_bind.1 h
  have hsettling := (settling_observeDeployment (s := s) hg hobserve).mono
    (List.subset_append_left own rest)
  cases state with
  | succeeded =>
    obtain ⟨backup, _, _, rfl, -, hend⟩ := yields_bind.1 hend
    cases (yields_done.1 hend).2
    have hphase : (if backup.isSome then MastersStage.etcdMigrationCheck
        else .provisioningSuccessful).phase = .settled := by
      split <;> rfl
    show Settling groups _ s .submitted (MastersStage.phase (ite _ _ _)) s _
    rw [hphase]
    exact hsettling
  | failed =>
    cases (yields_done.1 hend).2
    exact hsettling
  | missing =>
    cases (yields_done.1 hend).2
    exact hsettling
  | running =>
    cases (yields_done.1 hend).2
    exact hsettling

/-- Looking for changes leaves the map. -/
theorem state_of_settle (h : Yields (settle settings c s) trace o) : o.state = s := by
  obtain ⟨t, before, after, rfl, -, hend⟩ := yields_bind.1 h
  split at hend <;> (cases (yields_done.1 hend).2; rfl)

/-- What a stage of the masters does about the deployment. -/
theorem settling_stage (hg : groups c.group) (h : Yields (stage settings c s source) trace o)
    (hfollows : Stage.follows source o.transition.stage = true) :
    Settling groups Name.mastersDeployment s source.phase o.transition.stage.phase
      o.state trace := by
  cases source with
  | deploymentUninitialized => exact settling_submit hg h
  | deploymentInitialized => exact settling_observe hg h
  | provisioningSuccessful =>
    cases (yields_done.1 h).2
    exact .stays
  | etcdMigrationCheck =>
    cases (yields_done.1 h).2
    exact .stays
  | deploymentCompleted => exact .of_follows (by decide) hfollows (state_of_settle h)
  | _ => exact .of_follows (by decide) hfollows (yields_keeping.1 h).1

end Masters

end TenantFleet
