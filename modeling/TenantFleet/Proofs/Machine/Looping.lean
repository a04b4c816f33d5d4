/-
# Passes that are cut off and resumed

Three stages go through a list: drain requests are created for the masters, and deleted when they
were answered, and the old workers of a pool are closed for new work. A pass in one of them can fail
at any of its calls. It has kept nothing then, so the pass after it is in the same stage; it sees to
what is left, and comes to what a pass without the failure would have come to.

* `LoopingPass` : the passes in these stages;
* `LoopingPass.resumable` : each of them looks around, sees to its chores, and keeps the next stage;
* `looping_resumes` : each of them can be cut off at each of its calls.
-/
import TenantFleet.Proofs.Masters.Looping
import TenantFleet.Proofs.Masters.Run
import TenantFleet.Proofs.Masters.Stages
import TenantFleet.Proofs.Workers.Looping

namespace TenantFleet

open Program

/-- The passes that go through a list. -/
inductive LoopingPass : (Timestamp → Program Nat) → Prop
  /-- Drain requests are created for the masters. -/
  | requesting (settings : PassSettings) (c : AzureConfig)
    (hstage : (Masters.stateOf c).stage MastersStage = .backupEtcdDisk) :
    LoopingPass fun now => Masters.ensure settings now c
  /-- Drain requests that were answered are deleted. -/
  | awaiting (settings : PassSettings) (c : AzureConfig)
    (hstage : (Masters.stateOf c).stage MastersStage = .waitForMastersToDrain) :
    LoopingPass fun now => Masters.ensure settings now c
  /-- The nodes of old workers are closed. -/
  | cordoning (x : Workers.Scope)
    (hstage : (Workers.stateOf x.pool).stage WorkersStage = .cordonOldWorkers) :
    LoopingPass fun now => Workers.ensure x now

/-- What is kept of a pass that goes on at once does not tell its time. -/
theorem persist_advance {σ : Type} [Stage σ] (settings : PassSettings) (now now' : Timestamp)
    (handler : String) (target : StatusTarget) (source stage : σ) (s : HandlerState) :
    persist settings now handler target source (.advance stage s) =
      persist settings now' handler target source (.advance stage s) := by
  have hkept :
      s.after (Transition.advance stage) now = s.after (Transition.advance stage) now' := by
    simp only [HandlerState.after, Transition.waits, Transition.advance, Option.isSome_none,
      Bool.false_eq_true, if_false]
  unfold persist Outcome.advance
  rw [hkept]

/-- A looping pass looks around, sees to the chores that it found, and keeps the next stage. -/
theorem LoopingPass.resumable {pass : Timestamp → Program Nat} (hpass : LoopingPass pass) :
    ∃ (look : Program (Option (List Chore))) (idle : Timestamp → Program Nat)
      (finish : Program Nat),
      (Resumable look fun w => w.Calm ∧ w.Keyed) ∧ (∀ now, Asks Call.saves (idle now)) ∧
        Asks Call.saves finish ∧ ∀ now, pass now = looping look (idle now) finish := by
  cases hpass with
  | requesting settings c hstage =>
    have hwork : Masters.stage settings c (Masters.stateOf c) .backupEtcdDisk =
        (Masters.requestDrains settings c).bind fun t => .done (.ok ⟨t, Masters.stateOf c⟩) := rfl
    refine ⟨Masters.lookForNodes c,
      fun now => persist settings now Masters.handler (StatusTarget.ofConfig c)
        MastersStage.backupEtcdDisk (.wait .backupEtcdDisk settings.wait (Masters.stateOf c)),
      persist settings ⟨0, 0⟩ Masters.handler (StatusTarget.ofConfig c) MastersStage.backupEtcdDisk
        (.advance .waitForMastersToDrain (Masters.stateOf c)),
      Masters.resumable_lookForNodes c, fun now => asks_persist .., asks_persist .., fun now => ?_⟩
    show Masters.ensure settings now c = _
    rw [Masters.ensure_eq, hstage, hwork, Masters.requestDrains_eq, looping_bind, looping_bind,
      persist_advance settings ⟨0, 0⟩ now]
    rfl
  | awaiting settings c hstage =>
    have hwork : Masters.stage settings c (Masters.stateOf c) .waitForMastersToDrain =
        (Masters.awaitDrains settings c).bind fun t => .done (.ok ⟨t, Masters.stateOf c⟩) := rfl
    refine ⟨Masters.lookForRequests c,
      fun now => persist settings now Masters.handler (StatusTarget.ofConfig c)
        MastersStage.waitForMastersToDrain
        (.wait .waitForMastersToDrain settings.wait (Masters.stateOf c)),
      persist settings ⟨0, 0⟩ Masters.handler (StatusTarget.ofConfig c)
        MastersStage.waitForMastersToDrain
        (.advance .stopMasters (Masters.stateOf c)),
      Masters.resumable_lookForRequests c, fun now => asks_persist .., asks_persist ..,
        fun now => ?_⟩
    show Masters.ensure settings now c = _
    rw [Masters.ensure_eq, hstage, hwork, Masters.awaitDrains_eq, looping_bind, looping_bind,
      persist_advance settings ⟨0, 0⟩ now]
    rfl
  | cordoning x hstage =>
    have hwork : Workers.stage x (Workers.stateOf x.pool) .cordonOldWorkers =
        (Workers.cordonOld x).bind fun t => .done (.ok ⟨t, Workers.stateOf x.pool⟩) := rfl
    refine ⟨Workers.lookForOld x,
      fun now => persist x.settings now Workers.handler (StatusTarget.ofPool x.pool)
        WorkersStage.cordonOldWorkers ⟨x.stay .cordonOldWorkers, Workers.stateOf x.pool⟩,
      persist x.settings ⟨0, 0⟩ Workers.handler (StatusTarget.ofPool x.pool)
        WorkersStage.cordonOldWorkers
        (.advance .waitForWorkersToBecomeReady (Workers.stateOf x.pool)),
      Workers.resumable_lookForOld x, fun now => asks_persist .., asks_persist .., fun now => ?_⟩
    show Workers.ensure x now = _
    rw [Workers.ensure_eq, hstage, hwork, Workers.cordonOld_eq_looping, looping_bind, looping_bind,
      persist_advance x.settings ⟨0, 0⟩ now]
    rfl

/-- **Passes that are cut off and resumed.** In a world where nothing else fails, a looping pass
that fails at any of its calls to create or delete a drain request or to close a node, and a pass
after it, come to what one whole pass comes to: the same nodes, drain requests and writes, and so
the same next stage. Nothing is done twice, and nothing is touched but what the whole pass
handles. -/
theorem looping_resumes {pass : Timestamp → Program Nat} (hpass : LoopingPass pass) {w : World}
    (hw : w.Calm) (hkeyed : w.Keyed) {e : TenantError} (he : e.isNotFound = false)
    (he' : e.isAlreadyExists = false)
    (now now' : Timestamp) {k : Nat} (hk : 1 ≤ k)
    (hlast : k ≤ attempts World.handler (pass now) w) :
    ResumesAt e k w (pass now) (pass now') := by
  obtain ⟨look, idle, finish, hlook, hidle, hfinish, heq⟩ := hpass.resumable
  have hstart : w.unlogged.Calm ∧ w.unlogged.Keyed := ⟨hw.unlogged, hkeyed.nodes, hkeyed.drains⟩
  rw [heq now] at hlast
  rw [heq now, heq now']
  exact resumesAt_looping hlook (hidle now) hfinish hw hstart he he' hk hlast

/-! ## Masters and workers -/

namespace Masters

/-- A cluster whose masters are in a stage. -/
def configIn (source : MastersStage) : AzureConfig :=
  let kept := Dict.empty.insert HandlerState.stageKey (Stage.name source)
  { smallConfig with status := some { resources := Dict.empty.insert handler kept } }

/-- A world with three masters. -/
def drainingWorld : World where
  nodes := Partition.byName (["master-0", "master-1", "master-2"].map fun name =>
    { metadata := {
        name := some name
        labels := some (Dict.empty.insert Label.nodeRole Label.masterRole) } })
  template := .null

/-- The drain requests for three masters, which were answered. -/
def answeredRequests : Dict DrainerConfig :=
  Dict.ofList (drainingWorld.nodes.values.map fun n =>
    (n.name, finish (drainRequest smallConfig n)))

/-- A world with three masters that are drained. -/
def drainedWorld : World :=
  { drainingWorld with drains := Dict.empty.insert smallConfig.clusterId answeredRequests }

/-- Nodes and drain requests are stored under their names. -/
theorem keyed_drainedWorld : drainingWorld.Keyed ∧ drainedWorld.Keyed := by
  refine ⟨⟨fun h => (Partition.mem_of_byName h).2, fun h => by cases h⟩,
    ⟨fun h => (Partition.mem_of_byName h).2, fun {space name d} h => ?_⟩⟩
  change (((Dict.empty.insert smallConfig.clusterId answeredRequests).get? space).getD .empty).get?
      name = some d at h
  rw [Dict.get?_insert] at h
  split at h
  · obtain ⟨n, -, heq⟩ := List.mem_map.1 (Dict.mem_of_get?_ofList h)
    cases heq
    rfl
  · cases h

end Masters

namespace Workers

/-- A pool whose old workers are to be closed. -/
def closingScope : Scope :=
  let kept := Dict.empty.insert HandlerState.stageKey (Stage.name WorkersStage.cordonOldWorkers)
  { keptScope with
    pool := { keptScope.pool with status := some { resources := Dict.empty.insert handler kept } } }

/-- A world with two old workers and two new ones. -/
def closingWorld : World where
  cluster := {
    id := "sub-tenant"
    scaleSets := Dict.empty.insert keptScope.scaleSet keptScaleSet
    instances := Dict.empty.insert keptScope.scaleSet
      (["0", "1", "2", "3"].map fun id => { instanceId := id }) }
  nodes := Partition.byName ([("0", "4.2.0"), ("1", "4.2.0"), ("2", "5.0.0"), ("3", "5.0.0")].map
    fun (id, version) =>
    { metadata := {
        name := some ("nodepool-np1-00000" ++ id)
        labels := some ((Dict.empty.insert Label.operatorVersion version).insert
          Label.machinePool "np1") } })
  clusters := Table.put .empty "default" "abc12" { metadata := {} }
  template := .null

end Workers

/-- The passes that create and delete the drain requests of three masters can be cut off at the
second one, and so can the pass that closes two old workers. -/
theorem Masters.looping_resumes_draining :
    ((stateOf (configIn .backupEtcdDisk)).stage MastersStage = .backupEtcdDisk ∧
      drainingWorld.Calm ∧ drainingWorld.Keyed ∧
      2 ≤ attempts World.handler (ensure smallSettings ⟨0, 0⟩ (configIn .backupEtcdDisk))
        drainingWorld ∧
      ResumesAt (.apiNotAvailable "api") 2 drainingWorld
        (ensure smallSettings ⟨0, 0⟩ (configIn .backupEtcdDisk))
        (ensure smallSettings ⟨30, 0⟩ (configIn .backupEtcdDisk))) ∧
    ((stateOf (configIn .waitForMastersToDrain)).stage MastersStage = .waitForMastersToDrain ∧
      drainedWorld.Calm ∧ drainedWorld.Keyed ∧
      2 ≤ attempts World.handler (ensure smallSettings ⟨0, 0⟩ (configIn .waitForMastersToDrain))
        drainedWorld ∧
      ResumesAt (.apiNotAvailable "api") 2 drainedWorld
        (ensure smallSettings ⟨0, 0⟩ (configIn .waitForMastersToDrain))
        (ensure smallSettings ⟨30, 0⟩ (configIn .waitForMastersToDrain))) ∧
    (Workers.stateOf Workers.closingScope.pool).stage WorkersStage = .cordonOldWorkers ∧
      Workers.closingWorld.Calm ∧ Workers.closingWorld.Keyed ∧
      2 ≤ attempts World.handler (Workers.ensure Workers.closingScope ⟨0, 0⟩) Workers.closingWorld ∧
      ResumesAt (.apiNotAvailable "api") 2 Workers.closingWorld
        (Workers.ensure Workers.closingScope ⟨0, 0⟩)
        (Workers.ensure Workers.closingScope ⟨30, 0⟩) := by
  obtain ⟨hdraining, hdrained⟩ := keyed_drainedWorld
  have hclosing : Workers.closingWorld.Keyed :=
    ⟨fun h => (Partition.mem_of_byName h).2, fun h => by cases h⟩
  refine ⟨?_, ?_, ?_⟩
  · have hstage : (stateOf (configIn .backupEtcdDisk)).stage MastersStage = .backupEtcdDisk := by
      decide +kernel
    have hlast : 2 ≤ attempts World.handler (ensure smallSettings ⟨0, 0⟩ (configIn .backupEtcdDisk))
        drainingWorld := by decide +kernel
    exact ⟨hstage, ⟨rfl, rfl, rfl⟩, hdraining, hlast,
      looping_resumes (.requesting smallSettings _ hstage)
      ⟨rfl, rfl, rfl⟩ hdraining rfl rfl ⟨0, 0⟩ ⟨30, 0⟩ (by decide) hlast⟩
  · have hstage : (stateOf (configIn .waitForMastersToDrain)).stage MastersStage =
        .waitForMastersToDrain := by
      decide +kernel
    have hlast : 2 ≤ attempts World.handler
        (ensure smallSettings ⟨0, 0⟩ (configIn .waitForMastersToDrain))
        drainedWorld := by decide +kernel
    exact ⟨hstage, ⟨rfl, rfl, rfl⟩, hdrained, hlast,
      looping_resumes (.awaiting smallSettings _ hstage)
      ⟨rfl, rfl, rfl⟩ hdrained rfl rfl ⟨0, 0⟩ ⟨30, 0⟩ (by decide) hlast⟩
  · have hstage : (Workers.stateOf Workers.closingScope.pool).stage WorkersStage =
        .cordonOldWorkers := by
      decide +kernel
    have hlast : 2 ≤ attempts World.handler (Workers.ensure Workers.closingScope ⟨0, 0⟩)
        Workers.closingWorld := by decide +kernel
    exact ⟨hstage, ⟨rfl, rfl, rfl⟩, hclosing, hlast, looping_resumes (.cordoning _ hstage)
      ⟨rfl, rfl, rfl⟩ hclosing rfl rfl ⟨0, 0⟩ ⟨30, 0⟩ (by decide) hlast⟩

end TenantFleet
