/-
# The passes of both machines are all or nothing

Each stage of the masters and of the workers ends with a transition that the table has, or fails,
and does with the checksums what it may do. So every pass of either machine writes once, at its end,
or not at all.

* `Masters.results_stage`, `Workers.results_stage` : the transitions of the stages;
* `Masters.reckons_stage`, `Workers.reckons_stage` : what the stages do with the checksums;
* `Machine.atomic` : how the passes of the machines end.
-/
import TenantFleet.Proofs.Machine.Settled
import TenantFleet.Proofs.Masters.Run
import TenantFleet.Proofs.Pass.Atomic
import TenantFleet.Proofs.Workers.Capacity

namespace TenantFleet

open Program

/-- Whether a transition is one that the table has for a stage. -/
def Leads {σ : Type} [Stage σ] (source : σ) (t : Transition σ) : Prop :=
  Stage.follows source t.stage = true

/-- Submitting a template refuses nothing. -/
theorem results_submitIfChanged (g : ResourceGroup) (name : String) (s : HandlerState)
    (t : DeploymentTemplate) :
    Results (fun _ => True) (submitIfChanged g name s t) := by
  unfold submitIfChanged
  split
  · exact .pure trivial
  · exact (Results.groupCall _ _).bind fun _ _ => .pure trivial

/-- Neither does observing a deployment. -/
theorem results_observeDeployment (g : ResourceGroup) (name : String) :
    Results (fun _ => True) (observeDeployment g name) := by
  refine (Results.find? _ _).bind fun found _ => ?_
  cases found <;> exact .pure trivial

/-! ## The masters -/

namespace Masters

variable {settings : PassSettings} {c : AzureConfig} {s : HandlerState} {source : MastersStage}
  {o : Outcome MastersStage} {trace : List Asked}

theorem results_firstInstance : Results (fun _ => True) (firstInstance c) := by
  refine (Results.groupCall _ _).bind fun l _ => ?_
  split
  · exact .pure trivial
  · exact .fail rfl

theorem results_updateInstance (inst : String) : Results (fun _ => True) (updateInstance c inst) :=
  (Results.groupCall _ _).bind fun _ _ => .wait _ _

theorem results_reimageInstance (inst : String) :
    Results (fun _ => True) (reimageInstance c inst) :=
  (Results.groupCall _ _).bind fun _ _ => .wait _ _

/-- A stage that leaves the map has the transitions of its program. -/
theorem results_keeping {p : Program (Transition MastersStage)} (hp : Results (Leads source) p) :
    Results (fun o => Leads source o.transition) (keeping s p) :=
  hp.bind fun _ ht => .pure ht

theorem results_begin : Results (Leads .empty) (begin settings c) := by
  refine (Results.find? _ _).bind fun found _ => ?_
  cases found with
  | none => exact .pure rfl
  | some scaleSet =>
    dsimp only
    split <;> exact .pure rfl

theorem results_requestDrains : Results (Leads .backupEtcdDisk) (requestDrains settings c) := by
  refine (Results.open? _ _).bind fun tenant _ => ?_
  cases tenant with
  | none => exact .pure rfl
  | some tenant =>
    refine (Results.call _).bind fun nodes _ =>
      (Results.forEach fun n => .ask fun r => ?_).bind fun _ _ => .pure rfl
    cases r with
    | ok _ => exact .pure trivial
    | error e =>
      dsimp only
      split
      · exact .pure trivial
      · exact .fail rfl

theorem results_awaitDrains : Results (Leads .waitForMastersToDrain) (awaitDrains settings c) := by
  refine (Results.call _).bind fun requests _ => ?_
  split
  · exact .bind (.forEach fun d => .ask Results.unlessMissing) fun _ _ => .pure rfl
  · exact .pure rfl

theorem results_stop : Results (Leads .stopMasters) (stop settings c) := by
  refine results_firstInstance.bind fun v _ => (Results.groupCall _ _).bind fun view _ => ?_
  split
  · exact .pure rfl
  · exact (Results.groupCall _ _).bind fun _ _ => .pure rfl

theorem results_backUp : Results (Leads .ensureSnapshot) (backUp settings c) := by
  have hfind : Results (fun _ => True) (findBackup c) := (Results.groupCall _ _).bind fun _ _ =>
    .pure trivial
  have hdisk : ∀ v, Results (fun _ => True) (diskOf c v) := by
    intro v
    unfold diskOf
    split
    · exact .pure trivial
    · exact .fail rfl
  refine hfind.bind fun found _ => ?_
  cases found with
  | some snapshot =>
    dsimp only
    split <;> exact .pure rfl
  | none =>
    exact results_firstInstance.bind fun v _ => (hdisk v).bind fun source _ =>
      (Results.groupCall _ _).bind fun _ _ => .pure rfl

theorem results_submit :
    Results (fun o => Leads .deploymentUninitialized o.transition) (submit settings c s) := by
  refine (Results.call _).bind fun t _ => (results_submitIfChanged _ _ _ _).bind fun result _ =>
    .pure ?_
  obtain ⟨submitted, s'⟩ := result
  cases submitted <;> rfl

theorem results_observe :
    Results (fun o => Leads .deploymentInitialized o.transition) (observe settings c s) := by
  refine (results_observeDeployment _ _).bind fun state _ => ?_
  cases state with
  | succeeded =>
    have hfind : Results (fun _ => True) (findBackup c) := (Results.groupCall _ _).bind fun _ _ =>
      .pure trivial
    refine hfind.bind fun backup _ => .pure ?_
    cases backup <;> rfl
  | failed => exact .pure rfl
  | missing => exact .pure rfl
  | running => exact .pure rfl

theorem results_update : Results (Leads .updateMaster) (update c) := by
  refine results_firstInstance.bind fun v _ => ?_
  split
  · exact .pure rfl
  · exact (results_updateInstance _).bind fun _ _ => .pure rfl

theorem results_reimage : Results (Leads .reimageMaster) (reimage settings c) := by
  refine results_firstInstance.bind fun v _ => ?_
  split
  · refine (Results.groupCall _ _).bind fun view _ => ?_
    split
    · exact .pure rfl
    · exact (results_reimageInstance _).bind fun _ _ => .pure rfl
  · exact .pure rfl

theorem results_start : Results (Leads .startMaster) (start settings c) := by
  refine results_firstInstance.bind fun v _ => ?_
  split
  · exact (Results.groupCall _ _).bind fun _ _ => .pure rfl
  · exact .pure rfl

theorem results_checkUpgrade :
    Results (Leads .clusterUpgradeRequirementCheck) (checkUpgrade c) := by
  refine (Results.groupCall _ _).bind fun l _ => ?_
  split <;> exact .pure rfl

theorem results_upgrade : Results (Leads .masterInstancesUpgrading) (upgrade settings c) := by
  refine (Results.groupCall _ _).bind fun l _ => ?_
  split
  · exact .pure rfl
  · exact (results_updateInstance _).bind fun _ _ => (results_reimageInstance _).bind fun _ _ =>
      .pure rfl

theorem results_awaitReady : Results (Leads .waitForMastersToBecomeReady)
    (awaitReady settings c) := by
  refine (Results.open? _ _).bind fun tenant _ => ?_
  cases tenant with
  | none => exact .pure rfl
  | some tenant =>
    refine (Results.call _).bind fun nodes _ => ?_
    split <;> exact .pure rfl

theorem results_settle :
    Results (fun o => Leads .deploymentCompleted o.transition) (settle settings c s) := by
  refine (Results.call _).bind fun t _ => ?_
  split <;> exact .pure rfl

/-- Every stage of the masters keeps to the table. -/
theorem results_stage (settings : PassSettings) (c : AzureConfig) (s : HandlerState)
    (source : MastersStage) :
    Results (fun o => Leads source o.transition) (stage settings c s source) := by
  cases source with
  | empty => exact results_keeping results_begin
  | backupEtcdDisk => exact results_keeping results_requestDrains
  | waitForMastersToDrain => exact results_keeping results_awaitDrains
  | stopMasters => exact results_keeping results_stop
  | ensureSnapshot => exact results_keeping results_backUp
  | deploymentUninitialized => exact results_submit
  | deploymentInitialized => exact results_observe
  | provisioningSuccessful => exact .pure rfl
  | etcdMigrationCheck => exact .pure rfl
  | updateMaster => exact results_keeping results_update
  | reimageMaster => exact results_keeping results_reimage
  | startMaster => exact results_keeping results_start
  | clusterUpgradeRequirementCheck => exact results_keeping results_checkUpgrade
  | masterInstancesUpgrading => exact results_keeping results_upgrade
  | waitForMastersToBecomeReady => exact results_keeping results_awaitReady
  | deploymentCompleted => exact results_settle

theorem reckons_submit (h : Yields (submit settings c s) trace o) :
    Reckons c.group Name.mastersDeployment s o.state trace := by
  obtain ⟨t, before, after, rfl, -, h⟩ := yields_bind.1 h
  obtain ⟨⟨submitted, s'⟩, own, rest, rfl, hsubmit, hend⟩ := yields_bind.1 h
  cases (yields_done.1 hend).2
  exact (reckons_submitIfChanged hsubmit).mono
    (List.Subset.trans (List.subset_append_left own rest) (List.subset_append_right _ _))

theorem reckons_observe (h : Yields (observe settings c s) trace o) :
    Reckons c.group Name.mastersDeployment s o.state trace := by
  obtain ⟨state, own, rest, rfl, hobserve, hend⟩ := yields_bind.1 h
  have hgone := fun hstate => Reckons.mono (s := s) (.forgets (gone_of_observe hobserve hstate))
    (List.subset_append_left own rest)
  cases state with
  | succeeded =>
    obtain ⟨backup, _, _, rfl, -, hend⟩ := yields_bind.1 hend
    cases (yields_done.1 hend).2
    exact .leaves
  | failed =>
    cases (yields_done.1 hend).2
    exact hgone (Or.inl rfl)
  | missing =>
    cases (yields_done.1 hend).2
    exact hgone (Or.inr rfl)
  | running =>
    cases (yields_done.1 hend).2
    exact .leaves

/-- What the stages of the masters do with the checksums. -/
theorem reckons_stage (h : Yields (stage settings c s source) trace o) :
    Reckons c.group Name.mastersDeployment s o.state trace := by
  have hstate : o.state = s → Reckons c.group Name.mastersDeployment s o.state trace := by
    intro heq
    rw [heq]
    exact .leaves
  cases source with
  | deploymentUninitialized => exact reckons_submit h
  | deploymentInitialized => exact reckons_observe h
  | provisioningSuccessful =>
    cases (yields_done.1 h).2
    exact .leaves
  | etcdMigrationCheck =>
    cases (yields_done.1 h).2
    exact .leaves
  | deploymentCompleted => exact hstate (state_of_settle h)
  | _ => exact hstate (yields_keeping.1 h).1

end Masters

/-! ## The workers -/

namespace Workers

variable {x : Scope} {s : HandlerState} {source : WorkersStage} {o : Outcome WorkersStage}
  {trace : List Asked}

theorem results_usableTenant (x : Scope) : Results (fun _ => True) (usableTenant? x) := by
  refine (Results.call _).bind fun cluster _ => ?_
  cases cluster with
  | none => exact .pure trivial
  | some cluster =>
    dsimp only
    split
    · exact .pure trivial
    · exact .open? _ _

theorem results_survey (x : Scope) (tenant : Tenant) : Results (fun _ => True) (survey x tenant) :=
  (Results.groupCall _ _).bind fun _ _ => (Results.groupCall _ _).bind fun _ _ =>
    (Results.call _).bind fun _ _ => .pure trivial

theorem results_rescale (x : Scope) (scaleSet : ScaleSet) (capacity : Int) (autoscaler : Bool) :
    Results (fun _ => True) (rescale x scaleSet capacity autoscaler) :=
  (Results.groupCall _ _).bind fun _ _ => .wait _ _

theorem results_allRunning (x : Scope) (l : List Instance) :
    Results (fun _ => True) (allRunning x l) := by
  induction l with
  | nil => exact .pure trivial
  | cons v rest ih =>
    unfold allRunning
    split
    · refine (Results.groupCall _ _).bind fun view _ => ?_
      split
      · exact ih
      · exact .pure trivial
    · exact .pure trivial

/-- A stage that leaves the map has the transitions of its program. -/
theorem results_keeping {p : Program (Transition WorkersStage)} (hp : Results (Leads source) p) :
    Results (fun o => Leads source o.transition) (keeping s p) :=
  hp.bind fun _ ht => .pure ht

theorem results_submit : Results (fun o => Leads .deploymentUninitialized o.transition)
    (submit x s) := by
  refine (Results.call _).bind fun t _ => (results_submitIfChanged _ _ _ _).bind fun result _ =>
    .pure ?_
  obtain ⟨submitted, s'⟩ := result
  cases submitted <;> rfl

theorem results_observe : Results (fun o => Leads .deploymentInitialized o.transition)
    (observe x s) := by
  refine (results_observeDeployment _ _).bind fun state _ => ?_
  cases state <;> exact .pure rfl

theorem results_scaleUp : Results (fun o => Leads .scaleUp o.transition) (Workers.scaleUp x s) := by
  unfold Workers.scaleUp
  dsimp only
  split
  · exact .pure rfl
  refine (Results.groupCall _ _).bind fun l _ => (results_allRunning x l).bind fun running _ => ?_
  split
  · refine (results_observeDeployment _ _).bind fun state _ => ?_
    cases state with
    | failed => exact .pure rfl
    | missing => exact .pure rfl
    | running => exact .pure rfl
    | succeeded =>
      refine (results_usableTenant x).bind fun tenant _ => ?_
      cases tenant with
      | none => exact .pure rfl
      | some tenant =>
        refine (results_survey x tenant).bind fun surveyed _ => ?_
        split
        · exact (results_rescale x _ _ _).bind fun _ _ => .pure rfl
        · exact .pure rfl
  · exact .pure rfl

theorem results_cordonOld : Results (Leads .cordonOldWorkers) (cordonOld x) := by
  refine (results_usableTenant x).bind fun tenant _ => ?_
  cases tenant with
  | none => exact .pure rfl
  | some tenant =>
    refine (results_survey x tenant).bind fun surveyed _ => ?_
    dsimp only
    split
    · exact .pure rfl
    · refine (Results.forEach fun w => ?_).bind fun _ _ => .pure rfl
      unfold cordonWorker
      split
      · exact .pure trivial
      · exact .ask Results.unlessMissing

theorem results_awaitReady : Results (Leads .waitForWorkersToBecomeReady) (awaitReady x) := by
  refine (results_usableTenant x).bind fun tenant _ => ?_
  cases tenant with
  | none => exact .pure rfl
  | some tenant =>
    refine (results_survey x tenant).bind fun surveyed _ => ?_
    dsimp only
    split <;> exact .pure rfl

theorem results_scaleDown : Results (Leads .scaleDown) (Workers.scaleDown x) := by
  refine (results_usableTenant x).bind fun tenant _ => ?_
  cases tenant with
  | none => exact .pure rfl
  | some tenant =>
    have hremove : ∀ w, Results (fun _ => True) (removeWorker x tenant w) := fun w =>
      .bind (.ask Results.unlessMissing) fun _ _ => .note rfl (.pure trivial)
    have hdelete : ∀ ids, Results (fun _ => True) (deleteInstances x ids) := by
      intro ids
      unfold deleteInstances
      split
      · exact .pure trivial
      · exact (Results.groupCall _ _).bind fun _ _ => .wait _ _
    exact (results_survey x tenant).bind fun _ _ => (Results.forEach hremove).bind fun _ _ =>
      (hdelete _).bind fun _ _ => (Results.groupCall _ _).bind fun _ _ =>
        (results_rescale x _ _ _).bind fun _ _ => .pure rfl

theorem results_settle : Results (fun o => Leads .deploymentCompleted o.transition)
    (settle x s) := by
  refine (Results.call _).bind fun t _ => ?_
  split <;> exact .pure rfl

/-- Every stage of the workers keeps to the table. -/
theorem results_stage (x : Scope) (s : HandlerState) (source : WorkersStage) :
    Results (fun o => Leads source o.transition) (stage x s source) := by
  cases source with
  | empty => exact .pure rfl
  | deploymentUninitialized => exact results_submit
  | deploymentInitialized => exact results_observe
  | scaleUp => exact results_scaleUp
  | cordonOldWorkers => exact results_keeping results_cordonOld
  | waitForWorkersToBecomeReady => exact results_keeping results_awaitReady
  | scaleDown => exact results_keeping results_scaleDown
  | deploymentCompleted => exact results_settle

theorem reckons_submit (h : Yields (submit x s) trace o) :
    Reckons x.group x.scaleSet s o.state trace := by
  obtain ⟨t, before, after, rfl, -, h⟩ := yields_bind.1 h
  obtain ⟨⟨submitted, s'⟩, own, rest, rfl, hsubmit, hend⟩ := yields_bind.1 h
  cases (yields_done.1 hend).2
  exact (reckons_submitIfChanged hsubmit).mono
    (List.Subset.trans (List.subset_append_left own rest) (List.subset_append_right _ _))

theorem reckons_observe (h : Yields (observe x s) trace o) :
    Reckons x.group x.scaleSet s o.state trace := by
  obtain ⟨state, own, rest, rfl, hobserve, hend⟩ := yields_bind.1 h
  have hgone := fun hstate => Reckons.mono (s := s) (.forgets (gone_of_observe hobserve hstate))
    (List.subset_append_left own rest)
  cases state with
  | succeeded =>
    cases (yields_done.1 hend).2
    exact .leaves
  | failed =>
    cases (yields_done.1 hend).2
    exact hgone (Or.inl rfl)
  | missing =>
    cases (yields_done.1 hend).2
    exact hgone (Or.inr rfl)
  | running =>
    cases (yields_done.1 hend).2
    exact .leaves

/-- The stage that doubles the scale set forgets the checksums when the deployment has gone. -/
theorem reckons_scaleUp (h : Yields (Workers.scaleUp x s) trace o) :
    Reckons x.group x.scaleSet s o.state trace := by
  unfold Workers.scaleUp at h
  dsimp only at h
  split at h
  · cases (yields_done.1 h).2
    exact .leaves
  obtain ⟨l, listed, _, rfl, -, h⟩ := yields_bind.1 h
  obtain ⟨running, viewed, _, rfl, -, h⟩ := yields_bind.1 h
  split at h
  · obtain ⟨state, own, rest, rfl, hobserve, h⟩ := yields_bind.1 h
    have hsub : own ⊆ listed ++ (viewed ++ (own ++ rest)) :=
      List.subset_append_of_subset_right _
        (List.subset_append_of_subset_right _ (List.subset_append_left own rest))
    have hgone := fun hstate => Reckons.mono (s := s)
      (.forgets (gone_of_observe hobserve hstate)) hsub
    cases state with
    | failed =>
      cases (yields_done.1 h).2
      exact hgone (Or.inl rfl)
    | missing =>
      cases (yields_done.1 h).2
      exact hgone (Or.inr rfl)
    | running =>
      cases (yields_done.1 h).2
      exact .leaves
    | succeeded =>
      obtain ⟨tenant, _, _, rfl, -, h⟩ := yields_bind.1 h
      cases tenant with
      | none =>
        cases (yields_done.1 h).2
        exact .leaves
      | some tenant =>
        obtain ⟨surveyed, _, _, rfl, -, h⟩ := yields_bind.1 h
        split at h
        · obtain ⟨_, _, _, rfl, -, h⟩ := yields_bind.1 h
          cases (yields_done.1 h).2
          exact .leaves
        · cases (yields_done.1 h).2
          exact .leaves
  · cases (yields_done.1 h).2
    exact .leaves

/-- What the stages of the workers do with the checksums. -/
theorem reckons_stage (h : Yields (stage x s source) trace o) :
    Reckons x.group x.scaleSet s o.state trace := by
  have hstate : o.state = s → Reckons x.group x.scaleSet s o.state trace := by
    intro heq
    rw [heq]
    exact .leaves
  cases source with
  | empty =>
    cases (yields_done.1 h).2
    exact .leaves
  | deploymentUninitialized => exact reckons_submit h
  | deploymentInitialized => exact reckons_observe h
  | scaleUp => exact reckons_scaleUp h
  | deploymentCompleted => exact hstate (state_of_settle h)
  | _ => exact hstate (state_of_keeping h)

end Workers

/-! ## The passes -/

/-- **A pass is all or nothing.** Every transition that a stage of either machine ends with is one
that the table has; and whatever its calls are answered, a pass ends in one of the ways of
`Atomic`. -/
theorem Machine.atomic :
    (∀ settings c s source trace o, Yields (Masters.stage settings c s source) trace o →
      o.transition.validate source = .ok ()) ∧
    (∀ x s source trace o, Yields (Workers.stage x s source) trace o →
      o.transition.validate source = .ok ()) ∧
    (∀ settings now c m trace r m',
      Path metering (Masters.ensure settings now c) m trace (done r) m' →
      Atomic settings now Masters.handler (StatusTarget.ofConfig c) c.group Name.mastersDeployment
        (Masters.stateOf c) ((Masters.stateOf c).stage MastersStage)
        (Masters.stage settings c (Masters.stateOf c) ((Masters.stateOf c).stage MastersStage)) m
        trace r m') ∧
    ∀ x now m trace r m', Path metering (Workers.ensure x now) m trace (done r) m' →
      Atomic x.settings now Workers.handler (StatusTarget.ofPool x.pool) x.group x.scaleSet
        (Workers.stateOf x.pool) ((Workers.stateOf x.pool).stage WorkersStage)
        (Workers.stage x (Workers.stateOf x.pool) ((Workers.stateOf x.pool).stage WorkersStage)) m
        trace r m' := by
  refine ⟨?_, ?_, ?_, ?_⟩
  · intro settings c s source trace o h
    exact (Transition.validate_eq_ok_iff _ _).2 ((Masters.results_stage settings c s source).good h)
  · intro x s source trace o h
    exact (Transition.validate_eq_ok_iff _ _).2 ((Workers.results_stage x s source).good h)
  · intro settings now c m trace r m' path
    exact atomic_of_path
      ((Masters.asks_stage settings c _ _).mono fun _ => MastersStage.keepsStatus_of_calls)
      (Masters.results_stage settings c _ _) Masters.reckons_stage path
  · intro x now m trace r m' path
    exact atomic_of_path (Workers.keepsStatus_stage x _ _) (Workers.results_stage x _ _)
      Workers.reckons_stage path

/-- A handler that answers from one world, and takes note of events only. -/
def World.answering (w : World) : Handler Metrics where
  answer call m := ((World.answer call w).1, m)
  note event m := m.record event

/-- A program that ends well with these answers has such a path. -/
theorem path_answering {p : Program Nat} {w : World} {n d : Nat}
    (h : (advance w.answering n p {}).2.1.result?.bind Except.toOption = some d) :
    Path metering p {} (advance w.answering n p {}).1 (done (.ok d))
      (advance w.answering n p {}).2.2 := by
  obtain ⟨r, hr, hd⟩ := Option.bind_eq_some_iff.1 h
  cases r with
  | error e => cases hd
  | ok a =>
    cases hd
    rw [← eq_done_of_result? hr]
    exact path_advance (E := metering) (h := w.answering) (fun _ _ => rfl) rfl n p {}

/-- A pass over a master of an older version, and one over workers whose cluster has gone. -/
theorem Machine.atomic_small :
    (Outcome.advance MastersStage.updateMaster ⟨.empty⟩).transition.validate .etcdMigrationCheck =
      .ok () ∧
    (Outcome.advance WorkersStage.deploymentUninitialized ⟨.empty⟩).transition.validate .empty =
      .ok () ∧
    (∃ trace m', m'.transitions = [(["masters", "", "BackupETCDDisk"], 1)] ∧
      Atomic Masters.smallSettings ⟨0, 0⟩ Masters.handler
        (StatusTarget.ofConfig Masters.smallConfig)
        Masters.smallConfig.group Name.mastersDeployment (Masters.stateOf Masters.smallConfig)
        ((Masters.stateOf Masters.smallConfig).stage MastersStage)
        (Masters.stage Masters.smallSettings Masters.smallConfig
          (Masters.stateOf Masters.smallConfig)
          ((Masters.stateOf Masters.smallConfig).stage MastersStage)) {} trace (.ok 1) m') ∧
    ∃ trace m', m'.transitions = [] ∧
      Atomic Workers.keptScope.settings ⟨0, 0⟩ Workers.handler
        (StatusTarget.ofPool Workers.keptScope.pool)
        Workers.keptScope.group Workers.keptScope.scaleSet (Workers.stateOf Workers.keptScope.pool)
        ((Workers.stateOf Workers.keptScope.pool).stage WorkersStage)
        (Workers.stage Workers.keptScope (Workers.stateOf Workers.keptScope.pool)
          ((Workers.stateOf Workers.keptScope.pool).stage WorkersStage)) {} trace
        (.ok Workers.keptScope.settings.wait) m' := by
  refine ⟨?_, ?_, ?_, ?_⟩
  · exact Machine.atomic.1 Masters.smallSettings Masters.smallConfig
      ⟨.empty⟩ .etcdMigrationCheck [] _
      (yields_done.2 ⟨rfl, rfl⟩)
  · exact Machine.atomic.2.1 Workers.keptScope ⟨.empty⟩ .empty [] _ (yields_done.2 ⟨rfl, rfl⟩)
  · have path := path_answering (w := Masters.oldWorld) (n := Masters.passLimit)
      (p := Masters.ensure Masters.smallSettings ⟨0, 0⟩ Masters.smallConfig) (d := 1)
      (by decide +kernel)
    exact ⟨_, _, by decide +kernel, Machine.atomic.2.2.1 _ _ _ _ _ _ _ path⟩
  · have path := path_answering (w := Masters.oldWorld) (n := Masters.passLimit)
      (p := Workers.ensure Workers.keptScope ⟨0, 0⟩) (d := Workers.keptScope.settings.wait)
      (by decide +kernel)
    exact ⟨_, _, by decide +kernel, Machine.atomic.2.2.2 _ _ _ _ _ _ path⟩

end TenantFleet
