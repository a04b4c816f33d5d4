/-
# What the stages of the masters do

Each stage makes only a few kinds of calls, and what it ends with tells what these were answered.

* `MastersStage.calls` : the calls of a stage;
* `asks_stage` : a stage makes no other calls;
* `yields_keeping` : most stages leave the map as it is;
* `source_cases` : the stages of the backup are entered one after the other;
* `smallConfig` : a cluster with one master, that runs are shown on.
-/
import TenantFleet.Masters.Pass
import TenantFleet.Proofs.Pass.Settlement

namespace TenantFleet

open Program

/-! ## The calls of the stages -/

/-- Whether a stage of the masters makes calls of a kind. -/
def MastersStage.calls : MastersStage → Call → Prop
  | .empty, .cloud _ _ (.getScaleSet _) => True
  | .backupEtcdDisk, .openTenant _ _ => True
  | .backupEtcdDisk, .tenant _ _ (.listNodes _) => True
  | .backupEtcdDisk, .createDrain _ => True
  | .waitForMastersToDrain, .listDrains _ _ => True
  | .waitForMastersToDrain, .deleteDrain _ _ => True
  | .stopMasters, .cloud _ _ (.listInstances _) => True
  | .stopMasters, .cloud _ _ (.instanceView _ _) => True
  | .stopMasters, .cloud _ _ (.deallocate _ _) => True
  | .ensureSnapshot, .cloud _ _ .listSnapshots => True
  | .ensureSnapshot, .cloud _ _ (.listInstances _) => True
  | .ensureSnapshot, .cloud _ _ (.putSnapshot _ _) => True
  | .deploymentUninitialized, .mastersTemplate _ _ => True
  | .deploymentUninitialized, .cloud _ _ (.putDeployment _ _) => True
  | .deploymentInitialized, .cloud _ _ (.getDeployment _) => True
  | .deploymentInitialized, .cloud _ _ .listSnapshots => True
  | .updateMaster, .cloud _ _ (.listInstances _) => True
  | .updateMaster, .cloud _ _ (.updateInstances _ _) => True
  | .updateMaster, .cloud _ _ (.wait _) => True
  | .reimageMaster, .cloud _ _ (.listInstances _) => True
  | .reimageMaster, .cloud _ _ (.instanceView _ _) => True
  | .reimageMaster, .cloud _ _ (.reimage _ _) => True
  | .reimageMaster, .cloud _ _ (.wait _) => True
  | .startMaster, .cloud _ _ (.listInstances _) => True
  | .startMaster, .cloud _ _ (.start _ _) => True
  | .clusterUpgradeRequirementCheck, .cloud _ _ (.listInstances _) => True
  | .masterInstancesUpgrading, .cloud _ _ (.listInstances _) => True
  | .masterInstancesUpgrading, .cloud _ _ (.updateInstances _ _) => True
  | .masterInstancesUpgrading, .cloud _ _ (.reimage _ _) => True
  | .masterInstancesUpgrading, .cloud _ _ (.wait _) => True
  | .waitForMastersToBecomeReady, .openTenant _ _ => True
  | .waitForMastersToBecomeReady, .tenant _ _ (.listNodes _) => True
  | .deploymentCompleted, .mastersTemplate _ _ => True
  | _, _ => False

/-- No stage makes a write. -/
theorem MastersStage.keepsStatus_of_calls {stage : MastersStage} {c : Call} (h : stage.calls c) :
    c.keepsStatus := by
  cases c with
  | saveStatus target handler values => cases stage <;> exact h
  | _ => trivial

namespace Masters

variable {P : Call → Prop} {settings : PassSettings} {c : AzureConfig} {s : HandlerState}

/-- The masters are looked for before anything is done about the first one. -/
theorem asks_firstInstance
    (hlist : P (.cloud c.group.account c.group.name (.listInstances (scaleSetOf c)))) :
    Asks P (firstInstance c) := by
  refine .bind (.groupCall hlist) fun l => ?_
  split <;> trivial

/-- An instance is updated in two calls. -/
theorem asks_updateInstance (inst : String)
    (hupdate : P (.cloud c.group.account c.group.name (.updateInstances (scaleSetOf c) [inst])))
    (hwait : ∀ operation, P (.cloud c.group.account c.group.name (.wait operation))) :
    Asks P (updateInstance c inst) :=
  .bind (.groupCall hupdate) fun operation => .groupCall (hwait operation)

/-- An instance is reimaged in two calls. -/
theorem asks_reimageInstance (inst : String)
    (hreimage : P (.cloud c.group.account c.group.name (.reimage (scaleSetOf c) inst)))
    (hwait : ∀ operation, P (.cloud c.group.account c.group.name (.wait operation))) :
    Asks P (reimageInstance c inst) :=
  .bind (.groupCall hreimage) fun operation => .groupCall (hwait operation)

/-- A stage that leaves the map makes the calls of its program. -/
theorem asks_keeping {p : Program (Transition MastersStage)} (hp : Asks P p) :
    Asks P (keeping s p) :=
  hp.bind fun _ => trivial

theorem asks_begin : Asks MastersStage.empty.calls (begin settings c) := by
  refine .bind (.find? (by trivial)) fun found => ?_
  cases found with
  | none => trivial
  | some scaleSet =>
    dsimp only
    split <;> trivial

theorem asks_requestDrains : Asks MastersStage.backupEtcdDisk.calls (requestDrains settings c) := by
  have hopen : Asks MastersStage.backupEtcdDisk.calls
      (Tenant.open? c.metadata.spaceName c.clusterId) :=
    .bind (.call (by trivial)) fun _ => trivial
  refine hopen.bind fun tenant => ?_
  cases tenant with
  | none => trivial
  | some tenant =>
    refine .bind (.call (by trivial)) fun nodes => .bind (.forEach fun n => ?_) fun _ => trivial
    refine ⟨by trivial, fun r => ?_⟩
    cases r with
    | ok _ => trivial
    | error e =>
      dsimp only
      split <;> trivial

theorem asks_awaitDrains :
    Asks MastersStage.waitForMastersToDrain.calls (awaitDrains settings c) := by
  refine .bind (.call (by trivial)) fun requests => ?_
  split
  · refine .bind (.forEach fun d => ?_) fun _ => trivial
    refine ⟨by trivial, fun r => ?_⟩
    cases r with
    | ok _ => trivial
    | error e =>
      unfold Tenant.unlessMissing
      dsimp only
      split <;> trivial
  · trivial

theorem asks_stop : Asks MastersStage.stopMasters.calls (stop settings c) := by
  refine .bind (asks_firstInstance (by trivial)) fun v =>
    .bind (.groupCall (by trivial)) fun view => ?_
  split
  · trivial
  · exact .bind (.groupCall (by trivial)) fun _ => trivial

theorem asks_backUp : Asks MastersStage.ensureSnapshot.calls (backUp settings c) := by
  have hfind : Asks MastersStage.ensureSnapshot.calls (findBackup c) :=
    .bind (.groupCall (by trivial)) fun _ => trivial
  refine hfind.bind fun found => ?_
  cases found with
  | some snapshot =>
    dsimp only
    split <;> trivial
  | none =>
    refine .bind (asks_firstInstance (by trivial)) fun v => .bind ?_ fun source =>
      .bind (.groupCall (by trivial)) fun _ => trivial
    unfold diskOf
    split <;> trivial

theorem asks_submit : Asks MastersStage.deploymentUninitialized.calls (submit settings c s) := by
  refine .bind (.call (by trivial)) fun t => .bind ?_ fun result => trivial
  unfold submitIfChanged
  split
  · trivial
  · exact .bind (.groupCall (by trivial)) fun _ => trivial

theorem asks_observe : Asks MastersStage.deploymentInitialized.calls (observe settings c s) := by
  have hobserve : Asks MastersStage.deploymentInitialized.calls
      (observeDeployment c.group Name.mastersDeployment) := by
    refine .bind (.find? (by trivial)) fun found => ?_
    cases found <;> trivial
  refine hobserve.bind fun state => ?_
  cases state with
  | succeeded =>
    exact .bind (.bind (.groupCall (by trivial)) fun _ => trivial) fun _ => trivial
  | failed => trivial
  | missing => trivial
  | running => trivial

theorem asks_update : Asks MastersStage.updateMaster.calls (update c) := by
  refine .bind (asks_firstInstance (by trivial)) fun v => ?_
  split
  · trivial
  · exact .bind (asks_updateInstance _ (by trivial) fun _ => by trivial) fun _ => trivial

theorem asks_reimage : Asks MastersStage.reimageMaster.calls (reimage settings c) := by
  refine .bind (asks_firstInstance (by trivial)) fun v => ?_
  split
  · refine .bind (.groupCall (by trivial)) fun view => ?_
    split
    · trivial
    · exact .bind (asks_reimageInstance _ (by trivial) fun _ => by trivial) fun _ => trivial
  · trivial

theorem asks_start : Asks MastersStage.startMaster.calls (start settings c) := by
  refine .bind (asks_firstInstance (by trivial)) fun v => ?_
  split
  · exact .bind (.groupCall (by trivial)) fun _ => trivial
  · trivial

theorem asks_checkUpgrade : Asks MastersStage.clusterUpgradeRequirementCheck.calls
    (checkUpgrade c) := by
  refine .bind (.groupCall (by trivial)) fun l => ?_
  split <;> trivial

theorem asks_upgrade : Asks MastersStage.masterInstancesUpgrading.calls (upgrade settings c) := by
  refine .bind (.groupCall (by trivial)) fun l => ?_
  split
  · trivial
  · exact .bind (asks_updateInstance _ (by trivial) fun _ => by trivial) fun _ =>
      .bind (asks_reimageInstance _ (by trivial) fun _ => by trivial) fun _ => trivial

theorem asks_awaitReady : Asks MastersStage.waitForMastersToBecomeReady.calls
    (awaitReady settings c) := by
  have hopen : Asks MastersStage.waitForMastersToBecomeReady.calls
      (Tenant.open? c.metadata.spaceName c.clusterId) :=
    .bind (.call (by trivial)) fun _ => trivial
  refine hopen.bind fun tenant => ?_
  cases tenant with
  | none => trivial
  | some tenant =>
    refine .bind (.call (by trivial)) fun nodes => ?_
    split <;> trivial

theorem asks_settle : Asks MastersStage.deploymentCompleted.calls (settle settings c s) := by
  refine .bind (.call (by trivial)) fun t => ?_
  split <;> trivial

/-- A stage makes no calls but its own. -/
theorem asks_stage (settings : PassSettings) (c : AzureConfig) (s : HandlerState)
    (source : MastersStage) :
    Asks source.calls (stage settings c s source) := by
  cases source with
  | empty => exact asks_keeping asks_begin
  | backupEtcdDisk => exact asks_keeping asks_requestDrains
  | waitForMastersToDrain => exact asks_keeping asks_awaitDrains
  | stopMasters => exact asks_keeping asks_stop
  | ensureSnapshot => exact asks_keeping asks_backUp
  | deploymentUninitialized => exact asks_submit
  | deploymentInitialized => exact asks_observe
  | provisioningSuccessful => trivial
  | etcdMigrationCheck => trivial
  | updateMaster => exact asks_keeping asks_update
  | reimageMaster => exact asks_keeping asks_reimage
  | startMaster => exact asks_keeping asks_start
  | clusterUpgradeRequirementCheck => exact asks_keeping asks_checkUpgrade
  | masterInstancesUpgrading => exact asks_keeping asks_upgrade
  | waitForMastersToBecomeReady => exact asks_keeping asks_awaitReady
  | deploymentCompleted => exact asks_settle

/-! ## The ends of the stages -/

/-- A stage that leaves the map ends with it. -/
theorem yields_keeping {p : Program (Transition MastersStage)} {trace : List Asked}
    {o : Outcome MastersStage} :
    Yields (keeping s p) trace o ↔ o.state = s ∧ Yields p trace o.transition := by
  unfold keeping
  constructor
  · intro h
    obtain ⟨t, before, after, rfl, hp, hend⟩ := yields_bind.1 h
    obtain ⟨rfl, hend⟩ := yields_done.1 hend
    cases hend
    rw [List.append_nil]
    exact ⟨rfl, hp⟩
  · rintro ⟨rfl, hp⟩
    exact yields_bind.2 ⟨o.transition, trace, [], (List.append_nil _).symm, hp,
      yields_done.2 ⟨rfl, rfl⟩⟩

/-- And makes the calls of its program. -/
theorem issues_keeping {p : Program (Transition MastersStage)} {trace : List Asked} {call : Call}
    (h : Issues (keeping s p) trace call) : Issues p trace call := by
  rcases issues_bind.1 h with hcall | ⟨t, before, after, -, -, hend⟩
  · exact hcall
  · exact absurd hend not_issues_done

/-! ## The order of the stages -/

/-- Whether a stage comes after the backup, or needs none. -/
def late : MastersStage → Bool
  | .empty | .backupEtcdDisk | .waitForMastersToDrain | .stopMasters | .ensureSnapshot => false
  | _ => true

/-- A stage of the backup is entered from the one that it follows. -/
theorem source_cases {source target : MastersStage} (h : Stage.follows source target = true) :
    match target with
    | .waitForMastersToDrain => source = target ∨ source = .backupEtcdDisk
    | .stopMasters => source = target ∨ source = .waitForMastersToDrain
    | .ensureSnapshot => source = target ∨ source = .stopMasters
    | _ => True := by
  revert h
  cases source <;> cases target <;> decide

/-- A stage behind the backup is entered from another such one, from the beginning, or from the
backup. -/
theorem late_cases {source target : MastersStage} (h : Stage.follows source target = true)
    (htarget : late target = true) :
    late source = true ∨ source = .empty ∨ source = .ensureSnapshot := by
  revert h htarget
  cases source <;> cases target <;> decide

/-- Nothing leads back before the backup, and nothing back to a stage before it is taken. -/
theorem early_of_follows {source target : MastersStage} (h : Stage.follows source target = true)
    (htarget : late target = false) :
    late source = false ∧ (source = .ensureSnapshot → target = .ensureSnapshot) := by
  revert h htarget
  cases source <;> cases target <;> decide

/-! ## A small cluster -/

/-- A cluster with one master. -/
def smallConfig : AzureConfig where
  metadata := { name := some "abc12", space := some "default" }
  clusterId := "abc12"
  dnsZone := "abc12.k8s.example.io"
  etcdDomain := "etcd.abc12.k8s.example.io"
  location := "westeurope"
  masters := ["Standard_D4s_v3"]
  secret := ⟨"credentials", "default"⟩

/-- What the passes over it need to know. -/
def smallSettings : PassSettings := ⟨"ghost", ⟨5, 0, 0, [], []⟩, 30, 300⟩

end Masters

end TenantFleet
