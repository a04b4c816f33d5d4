/-
# A machine settles only on a deployment that succeeded

Each pass of a machine starts from the map that it finds. Whatever happened before, a machine that
has completed its deployment knows the checksums of one that was submitted in the run and succeeded
later.

* `Machine.Pass` : the passes of a machine;
* `confirmed_of_completed` : what the stored map of a machine stands for when it is completed.
-/
import TenantFleet.Proofs.Machine.Basic
import TenantFleet.Proofs.Masters.Settlement
import TenantFleet.Proofs.Program.Round
import TenantFleet.Proofs.Workers.Settlement

namespace TenantFleet

open Program

/-! ## Passes -/

namespace Machine

/-- The passes of a machine, with the resource group and the deployment that they are about and the
map that they start from. -/
inductive Pass : Machine → ResourceGroup → String → HandlerState → Program Nat → Prop
  /-- A pass over the masters of a cluster. -/
  | masters (settings : PassSettings) (now : Timestamp) (c : AzureConfig) :
    Pass masters c.group Name.mastersDeployment (Masters.stateOf c) (Masters.ensure settings now c)
  /-- A pass over the workers of a pool. -/
  | workers (x : Workers.Scope) (now : Timestamp) :
    Pass workers x.group x.scaleSet (Workers.stateOf x.pool) (Workers.ensure x now)

/-- Whether a machine has completed its deployment. -/
def Completed : Machine → HandlerState → Prop
  | masters, s => s.stage MastersStage = .deploymentCompleted
  | workers, s => s.stage WorkersStage = .deploymentCompleted

/-- How far a machine is with its deployment. -/
def phaseOf : Machine → HandlerState → Phase
  | masters, s => (s.stage MastersStage).phase
  | workers, s => (s.stage WorkersStage).phase

/-- A machine that has completed its deployment is settled. -/
theorem Completed.settled {m : Machine} {s : HandlerState} (h : m.Completed s) :
    m.phaseOf s = .settled := by
  cases m with
  | masters => exact congrArg MastersStage.phase h
  | workers => exact congrArg WorkersStage.phase h

/-- A machine without a map is unsettled. -/
theorem phaseOf_empty (m : Machine) : m.phaseOf ⟨.empty⟩ = .unsettled := by
  cases m <;> rfl

end Machine

/-! ## Runs -/

variable {m : Machine} {groups : ResourceGroup → Prop} {name : String} {maps : HandlerMaps}
  {stored stored' : Stored} {asked trace : List Asked} {rounds : List (Round HandlerMaps)}
  {p q : Program Nat} {g : ResourceGroup}

/-- A pass keeps what the maps stand for. -/
theorem Machine.Pass.tells (hp : m.Pass g name (HandlerState.load (some maps) m.handler) p)
    (hg : groups g) (hmaps : maps ∈ stored.all)
    (htells : stored.Tells groups name m.phaseOf m.handler asked)
    (path : Path storing p stored trace q stored') :
    stored'.Tells groups name m.phaseOf m.handler (asked ++ trace) := by
  have hholds := htells maps hmaps
  generalize hs : HandlerState.load (some maps) m.handler = s at hp hholds
  cases hp with
  | masters settings now c =>
    refine settlement_pass MastersStage.phase ?_ ?_ hholds htells path
    · exact (Masters.asks_stage settings c _ _).mono fun _ => MastersStage.keepsStatus_of_calls
    · exact fun before o hdone hfollows => Masters.settling_stage hg hdone hfollows
  | workers x now =>
    refine settlement_pass WorkersStage.phase ?_ ?_ hholds htells path
    · exact Workers.keepsStatus_stage x _ _
    · exact fun before o hdone hfollows => Workers.settling_stage hg hdone hfollows

/-- A run of a machine over an object: each pass starts from maps that were stored, not necessarily
the last ones, and is about one of the groups. -/
def Machine.Runs (m : Machine) (groups : ResourceGroup → Prop) (name : String) (maps : HandlerMaps)
    (rounds : List (Round HandlerMaps)) (stored : Stored) : Prop :=
  Rounds storing (fun stored maps p => maps ∈ stored.all ∧
    ∃ g, groups g ∧ m.Pass g name (HandlerState.load (some maps) m.handler) p) ⟨maps, []⟩
      rounds stored

/-- All stored maps stand for what the run of a machine has come to, when there was none for it at
the beginning. -/
theorem Machine.Runs.tells (hrun : m.Runs groups name maps rounds stored)
    (hstart : maps.get? m.handler = none) :
    stored.Tells groups name m.phaseOf m.handler (Rounds.asked rounds) := by
  induction hrun with
  | start =>
    intro maps' hmaps'
    cases List.mem_singleton.1 hmaps'
    have hload : HandlerState.load (some maps) m.handler = ⟨.empty⟩ := by
      show HandlerState.mk ((maps.get? m.handler).getD .empty) = _
      rw [hstart]
      rfl
    rw [hload, m.phaseOf_empty]
    -- No checksum is known.
    rintro template parameters ⟨htemplate, -⟩
    cases htemplate
  | next before hp path ih =>
    obtain ⟨hmaps, g, hg, hpass⟩ := hp
    rw [Rounds.asked_append, Rounds.asked_singleton]
    exact hpass.tells hg hmaps ih path

/-- A machine settles only on a deployment that succeeded: when the stored stage is the last one,
both checksums are stored, and in the run a deployment with these checksums was submitted in one of
the groups, and the deployment of that name was later observed to have succeeded. -/
theorem confirmed_of_completed (m : Machine) (groups : ResourceGroup → Prop) (name : String)
    {maps : HandlerMaps} (hstart : maps.get? m.handler = none) {rounds : List (Round HandlerMaps)}
    {stored : Stored} (hrun : m.Runs groups name maps rounds stored)
    (hcompleted : m.Completed (HandlerState.load (some stored.latest) m.handler)) :
    ∃ template parameters,
      (HandlerState.load (some stored.latest) m.handler).Knows template parameters ∧
        Confirmed groups name (Rounds.asked rounds) template parameters := by
  have hholds := hrun.tells hstart stored.latest List.mem_cons_self
  rw [hcompleted.settled] at hholds
  exact hholds

/-! ## A run in which nothing fails -/

/-- A world in which the deployment succeeded and the scale set has no instances. -/
def calmWorld : World where
  cluster := {
    id := "sub-tenant"
    scaleSets := Dict.empty.insert (Masters.scaleSetOf Masters.smallConfig)
      { location := "westeurope", tags := Dict.empty.insert Tag.operatorVersion "5.0.0" }
    deployments := Dict.empty.insert Name.mastersDeployment
      { provisioningState := some provisioningSucceeded } }
  template := .null

/-- A store beside a world that stays as it is. -/
def keeper (w : World) : Handler Stored where
  answer c stored :=
    match c with
    | .saveStatus target handler values => (.ok (), stored.write ⟨target, handler, values⟩)
    | c => ((World.answer c w).1, stored)
  note _ stored := stored

/-- The store answers as it may. -/
theorem answers_keeper (w : World) (c : Call) (stored : Stored) :
    storing.answers c stored ((keeper w).answer c stored).1 ((keeper w).answer c stored).2 := by
  cases c with
  | saveStatus target handler values => exact Or.inl rfl
  | _ => rfl

/-- The next pass over the cluster. -/
def calmPass (stored : Stored) : Program Nat :=
  Masters.ensure Masters.smallSettings ⟨0, 0⟩
    { Masters.smallConfig with status := some { resources := stored.latest } }

/-- What is stored after a number of passes. -/
def calmStore (n : Nat) : Stored :=
  (fun stored => (run (keeper calmWorld) (calmPass stored) stored).2)^[n] ⟨.empty, []⟩

/-- The passes over the cluster are a run. -/
theorem runs_calm (n : Nat) :
    ∃ rounds, Machine.masters.Runs (· = Masters.smallConfig.group) Name.mastersDeployment
      .empty rounds (calmStore n) := by
  refine Rounds.exists_of_run (answers_keeper calmWorld) rfl
    (fun stored => (stored.latest, calmPass stored)) ?_ n ⟨.empty, []⟩
  intro stored
  exact ⟨List.mem_cons_self, Masters.smallConfig.group, rfl,
    .masters _ _ { Masters.smallConfig with status := some { resources := stored.latest } }⟩

/-- The cluster settles after five passes, on a deployment that succeeded. -/
theorem confirmed_of_completed_calm :
    ∃ rounds, Machine.masters.Runs (· = Masters.smallConfig.group) Name.mastersDeployment
      .empty rounds (calmStore 5) ∧
      Machine.masters.Completed (HandlerState.load (some (calmStore 5).latest) Masters.handler) ∧
      ∃ template parameters,
        (HandlerState.load (some (calmStore 5).latest) Masters.handler).Knows template parameters ∧
          Confirmed (· = Masters.smallConfig.group) Name.mastersDeployment
            (Rounds.asked rounds) template parameters := by
  obtain ⟨rounds, hrun⟩ := runs_calm 5
  have hcompleted : Machine.masters.Completed
      (HandlerState.load (some (calmStore 5).latest) Masters.handler) := by
    show HandlerState.stage MastersStage _ = .deploymentCompleted
    decide +kernel
  exact ⟨rounds, hrun, hcompleted, confirmed_of_completed .masters _ _ rfl hrun hcompleted⟩

end TenantFleet
