/-
# Runs of the masters

The passes over the masters of one cluster, each with the configuration as it is stored then. What
else the configuration declares may change from pass to pass, and each pass may be given up at any
moment.

* `Masters.stageIn` : the stage that is stored;
* `Masters.Run` : the runs of the masters in some surroundings;
* `state_of_pass`, `stage_of_pass` : the map and the stage that a moment of a pass leaves;
* `left_of_pass` : what a pass that left a stage ended that stage with;
* `LastIn` : the last round of a run in a stage.
-/
import TenantFleet.Proofs.Masters.Stages
import TenantFleet.Proofs.Program.Round
import TenantFleet.World.Basic

namespace TenantFleet

open Program

/-! ## Worlds that others change -/

/-- A world that others change before each call; it may lose what is written. -/
def World.changing (change : World → World) (loses : Bool) : Handler World where
  answer
    | .saveStatus target handler values, w =>
      if loses then (.error (.watch "connection lost"), w)
      else World.answer (.saveStatus target handler values) (change w)
    | c, w => World.answer c (change w)
  note := World.handler.note

/-! ## What is stored -/

namespace Masters

variable {c c' : AzureConfig} {w w' : World} {settings : PassSettings} {now : Timestamp}

/-- The configuration as it is stored after the writes of a world. -/
def stored (c : AzureConfig) (w : World) : AzureConfig :=
  w.saves.foldl (fun c s => s.applyToConfig c) c

/-- The stage that the masters are stored in. -/
def stageIn (c : AzureConfig) (w : World) : MastersStage :=
  (stateOf (stored c w)).stage MastersStage

/-- No write changes more than the status of the configuration. -/
theorem stored_eq (c : AzureConfig) (w : World) :
    stored c w = { c with status := (stored c w).status } := by
  have hwrite : ∀ (s : SavedState) (c : AzureConfig),
      s.applyToConfig c = { c with status := (s.applyToConfig c).status } := by
    intro s c
    unfold SavedState.applyToConfig
    split <;> rfl
  have hfold : ∀ (l : List SavedState) (c : AzureConfig), l.foldl (fun c s => s.applyToConfig c) c =
      { c with status := (l.foldl (fun c s => s.applyToConfig c) c).status } := by
    intro l
    induction l with
    | nil => exact fun _ => rfl
    | cons s rest ih =>
      intro c
      rw [List.foldl_cons, ih, hwrite]
  exact hfold w.saves c

/-- What a pass works on that reads the configuration in a world: it is about the same cluster, and
has the map that is stored. -/
structure Reads (c : AzureConfig) (w : World) (c' : AzureConfig) : Prop where
  clusterId : c'.clusterId = c.clusterId
  name : c'.metadata.anyName = c.metadata.anyName
  state : stateOf c' = stateOf (stored c w)

/-- A pass may work on what is stored. -/
theorem reads_stored (c : AzureConfig) (w : World) : Reads c w (stored c w) where
  clusterId := by rw [stored_eq]
  name := by rw [stored_eq]
  state := rfl

/-- A pass runs the stage that is stored. -/
theorem Reads.stage (h : Reads c w c') : (stateOf c').stage MastersStage = stageIn c w := by
  rw [h.state]
  rfl

/-- The map that is stored is the one that is written last. -/
theorem Reads.state_of_saved (h : Reads c w c') {values : Dict String}
    (hsaves : w'.saves = w.saves ++ [⟨StatusTarget.ofConfig c', handler, values⟩]) :
    stateOf (stored c w') = ⟨values⟩ := by
  have hstored : stored c w' =
      (stored c w).modifyMaps
        (SavedState.applyTo ⟨StatusTarget.ofConfig c', handler, values⟩) := by
    rw [stored, hsaves, List.foldl_append]
    exact if_pos ⟨rfl, h.name.trans (reads_stored c w).name.symm⟩
  rw [hstored]
  show HandlerState.mk ((Dict.insert _ handler values).get? handler |>.getD .empty) = ⟨values⟩
  rw [Dict.get?_insert_self]
  rfl

/-! ## Moments of a pass -/

/-- Whether nothing is written but by the passes, each of whose writes may take place even if it
fails. -/
structure Storing (E : Surroundings World) : Prop where
  others : ∀ {call w r w'}, E.answers call w r w' → call.keepsStatus → w'.saves = w.saves
  write : ∀ {target handler values w r w'}, E.answers (.saveStatus target handler values) w r w' →
    w'.saves = w.saves ∨ w'.saves = w.saves ++ [⟨target, handler, values⟩]
  note : ∀ event w, (E.note event w).saves = w.saves

/-- A moment of a pass leaves the map as it was stored, or the one that its outcome was kept
with. -/
theorem state_of_pass {E : Surroundings World} (hE : Storing E) (hc : Reads c w c')
    {asked : List Asked} {q : Program Nat} (path : Path E (ensure settings now c') w asked q w') :
    stateOf (stored c w') = stateOf (stored c w) ∨
      ∃ o before target values r, asked = before ++ [⟨.saveStatus target handler values, r⟩] ∧
        Yields (stage settings c' (stateOf c') (stageIn c w)) before o ∧
        Stage.follows (stageIn c w) o.transition.stage = true ∧
        stateOf (stored c w') = o.state.after o.transition now := by
  -- A stage makes no writes, so the map that is stored stays until an outcome is kept.
  have hwork : ∀ {trace rest w₁},
      Path E (stage settings c' (stateOf c') (stageIn c w)) w trace rest w₁ →
      w₁.saves = w.saves := by
    intro trace rest w₁ path
    refine path.keeps (J := fun _ w₁ => w₁.saves = w.saves) rfl ?_ ?_
    · exact fun _ event w₁ h => (hE.note event w₁).trans h
    · intro _ call r w₁ w₂ hissue hsaves turn
      have hcalls := (asks_stage settings c' (stateOf c') _).of_issues hissue
      exact (hE.others turn (MastersStage.keepsStatus_of_calls hcalls)).trans hsaves
  have hsame : w'.saves = w.saves → stateOf (stored c w') = stateOf (stored c w) := by
    intro hsaves
    unfold stored
    rw [hsaves]
  rw [ensure_eq, hc.stage] at path
  rcases pass_cases path with ⟨rest, hrest, -⟩ |
    ⟨o, before, w₁, r, w₂, hdone, hfollows, turn, rfl, hend⟩
  · exact Or.inl (hsame (hwork hrest))
  · have hnoted : w'.saves = w₂.saves := hend.silent (J := fun w' => w'.saves = w₂.saves) rfl
      fun event w' h => (hE.note event w').trans h
    have hbefore := hwork hdone
    rcases hE.write turn with hlost | hwritten
    · exact Or.inl (hsame (hnoted.trans (hlost.trans hbefore)))
    · refine Or.inr ⟨o, before, _, _, r, rfl, hdone.yields, hfollows, ?_⟩
      rw [hbefore] at hwritten
      exact hc.state_of_saved (hnoted.trans hwritten)

/-- A moment of a pass leaves the stage as it was stored, or the one that its outcome was kept
with. -/
theorem stage_of_pass {E : Surroundings World} (hE : Storing E) (hc : Reads c w c')
    {asked : List Asked} {q : Program Nat} (path : Path E (ensure settings now c') w asked q w') :
    stageIn c w' = stageIn c w ∨
      ∃ o before target values r, asked = before ++ [⟨.saveStatus target handler values, r⟩] ∧
        Yields (stage settings c' (stateOf c') (stageIn c w)) before o ∧
        Stage.follows (stageIn c w) o.transition.stage = true ∧
        stageIn c w' = o.transition.stage := by
  rcases state_of_pass hE hc path with hsame |
    ⟨o, before, target, values, r, hasked, hdone, hfollows, hstate⟩
  · refine Or.inl ?_
    unfold stageIn
    rw [hsame]
  · refine Or.inr ⟨o, before, target, values, r, hasked, hdone, hfollows, ?_⟩
    unfold stageIn
    rw [hstate]
    exact stage_of_after o.state o.transition now

/-- A moment of a pass leaves a stage that may come next. -/
theorem follows_of_pass {E : Surroundings World} (hE : Storing E) (hc : Reads c w c')
    {asked : List Asked} {q : Program Nat} (path : Path E (ensure settings now c') w asked q w') :
    Stage.follows (stageIn c w) (stageIn c w') = true := by
  rcases stage_of_pass hE hc path with hsame | ⟨o, before, target, values, r, -, -, hfollows, hnext⟩
  · rw [hsame]
    exact follows_self _
  · rw [hnext]
    exact hfollows

/-- When a pass has left a stage that does not change the map, the program of that stage ended with
the next one. -/
theorem left_of_pass {E : Surroundings World} (hE : Storing E) (hc : Reads c w c')
    {asked : List Asked} {q : Program Nat} (path : Path E (ensure settings now c') w asked q w')
    {source : MastersStage} {p : Program (Transition MastersStage)}
    (hp : stage settings c' (stateOf c') source = keeping (stateOf c') p)
    (hsource : stageIn c w = source) (hleft : stageIn c w' ≠ source) :
    ∃ before target values r t, asked = before ++ [⟨.saveStatus target handler values, r⟩] ∧
      Yields p before t ∧ t.stage = stageIn c w' := by
  rcases stage_of_pass hE hc path with hsame |
    ⟨o, before, target, values, r, hasked, hdone, -, hnext⟩
  · exact absurd (hsame.trans hsource) hleft
  · rw [hsource, hp] at hdone
    obtain ⟨-, hdone⟩ := yields_keeping.1 hdone
    exact ⟨before, target, values, r, o.transition, hasked, hdone, hnext.symm⟩

/-- A call of a pass is one of its stage, or the write of what its stage ended with. -/
theorem issues_or_keeps {asked : List Asked} {call : Call}
    (h : Issues (ensure settings now c') asked call) :
    Issues (stage settings c' (stateOf c') ((stateOf c').stage MastersStage)) asked call ∨
      ∃ o, Yields (stage settings c' (stateOf c') ((stateOf c').stage MastersStage)) asked o ∧
        call = .saveStatus (StatusTarget.ofConfig c') handler
          (o.state.after o.transition now).values := by
  rw [ensure_eq] at h
  rcases issues_bind.1 h with hstage | ⟨o, before, after, rfl, hdone, hkeep⟩
  · exact Or.inl hstage
  · by_cases hfollows : Stage.follows ((stateOf c').stage MastersStage) o.transition.stage = true
    · rw [persist_eq settings now handler _ hfollows, issues_ask] at hkeep
      rcases hkeep with ⟨rfl, hcall⟩ | ⟨r, rest, -, hrest⟩
      · rw [List.append_nil]
        exact Or.inr ⟨o, hdone, hcall⟩
      · exact ((asks_afterWrite (P := fun _ => False) settings handler _ o.transition r).of_issues
          hrest).elim
    · rw [persist_of_not_follows settings now handler _ hfollows] at hkeep
      exact absurd hkeep not_issues_done

/-- The calls of a pass are those of its stage, and one write. -/
theorem issues_ensure {asked : List Asked} {call : Call}
    (h : Issues (ensure settings now c') asked call) :
    Issues (stage settings c' (stateOf c') ((stateOf c').stage MastersStage)) asked call ∨
      ∃ values, call = .saveStatus (StatusTarget.ofConfig c') handler values :=
  (issues_or_keeps h).imp_right fun ⟨_, _, hcall⟩ => ⟨_, hcall⟩

/-- The calls that a pass has made are those of its stage, and one write. -/
theorem calls_of_pass {E : Surroundings World} (hc : Reads c w c') {asked : List Asked}
    {q : Program Nat}
    (path : Path E (ensure settings now c') w asked q w') {a : Asked} (ha : a ∈ asked) :
    (stageIn c w).calls a.call ∨
      ∃ values, a.call = .saveStatus (StatusTarget.ofConfig c') handler values := by
  obtain ⟨before, after, rfl⟩ := List.append_of_mem ha
  rcases issues_ensure (path.issues_of_append before after) with hstage | hsave
  · rw [hc.stage] at hstage
    exact Or.inl ((asks_stage settings c' (stateOf c') _).of_issues hstage)
  · exact Or.inr hsave

/-! ## Runs -/

/-- The passes that may be made next. -/
def Next (settings : PassSettings) (c : AzureConfig) (w : World) (c' : AzureConfig)
    (p : Program Nat) : Prop :=
  Reads c w c' ∧ ∃ now, p = ensure settings now c'

/-- The runs of the masters of a cluster in some surroundings. -/
abbrev Run (E : Surroundings World) (settings : PassSettings) (c : AzureConfig) (w₀ : World) :
    List (Round AzureConfig) → World → Prop :=
  Rounds E (Next settings c) w₀

/-! ## Runs that are answered -/

/-- More calls than a pass over few masters makes. -/
def passLimit : Nat := 20

/-- The rounds of passes that are each answered by a handler, behind those of before, and the world
that they come to. -/
def play (settings : PassSettings) (c : AzureConfig) :
    List (Handler World) → List (Round AzureConfig) → World → List (Round AzureConfig) × World
  | [], rounds, w => (rounds, w)
  | h :: rest, rounds, w =>
    let (asked, _, w') := advance h passLimit (ensure settings ⟨0, 0⟩ (stored c w)) w
    play settings c rest (rounds ++ [⟨stored c w, asked⟩]) w'

/-- Such passes are a run. -/
theorem run_play {E : Surroundings World} {handlers : List (Handler World)} {w₀ : World}
    {rounds : List (Round AzureConfig)}
    (hE : ∀ h ∈ handlers, (∀ call w, E.answers call w (h.answer call w).1 (h.answer call w).2) ∧
      E.note = h.note)
    (hrun : Run E settings c w₀ rounds w) :
    Run E settings c w₀ (play settings c handlers rounds w).1
      (play settings c handlers rounds w).2 := by
  induction handlers generalizing rounds w with
  | nil => exact hrun
  | cons h rest ih =>
    obtain ⟨hanswer, hnote⟩ := hE h List.mem_cons_self
    refine ih (fun h' hh' => hE h' (List.mem_cons_of_mem _ hh')) ?_
    exact .next hrun ⟨reads_stored c w, _, rfl⟩ (path_advance hanswer hnote passLimit _ w)

/-- The world of the cluster, with a master of an older version. -/
def oldWorld : World where
  cluster := {
    id := "sub-tenant"
    scaleSets := Dict.empty.insert (scaleSetOf smallConfig)
      { location := "westeurope", tags := Dict.empty.insert Tag.operatorVersion "4.2.0" }
    instances := Dict.empty.insert (scaleSetOf smallConfig) [{
      instanceId := "0"
      location := "westeurope"
      storage := some { dataDisks := [{
        lun := 0
        createOption := .empty
        managedDisk := some (some "/disks/old-master-0") }] } }] }
  nodes := Dict.empty.insert "master-0" { metadata := {
    name := some "master-0"
    labels := some (Dict.empty.insert Label.nodeRole Label.masterRole) } }
  template := .null

/-- The world of the old master, which is ready. -/
def soundWorld : World :=
  { oldWorld with cluster := { oldWorld.cluster with
      instances := oldWorld.cluster.instances.modify (scaleSetOf smallConfig) fun l =>
        l.map fun v => { v with provisioningState := some provisioningSucceeded } } }

/-- A drain request that has come to an end. -/
def finish (d : DrainerConfig) : DrainerConfig :=
  { d with conditions := some [{ type := DrainerConfig.drained, status := "True" }] }

/-- A drainer that has drained the old master, where nothing fails. -/
def drain (w : World) : World :=
  { w with
    failures := .empty
    drains := w.drains.modify smallConfig.clusterId fun row => row.modify "master-0" finish }

/-- The rounds of a number of passes over the old master, and the world after them. -/
def replacing (w₀ : World) (n : Nat) : List (Round AzureConfig) × World :=
  play smallSettings smallConfig (List.replicate n (World.changing drain false)) [] w₀

/-- The next pass after a number of calls. -/
def replacingNext (w₀ : World) (n calls : Nat) : List Asked × Program Nat × World :=
  advance (World.changing drain false) calls
    (ensure smallSettings ⟨0, 0⟩ (stored smallConfig (replacing w₀ n).2)) (replacing w₀ n).2

/-- The passes over the old master are a run. -/
theorem run_replacing {E : Surroundings World}
    (hE : ∀ call w, E.answers call w ((World.changing drain false).answer call w).1
      ((World.changing drain false).answer call w).2)
    (hnote : E.note = World.handler.note) (w₀ : World) (n : Nat) :
    Run E smallSettings smallConfig w₀ (replacing w₀ n).1 (replacing w₀ n).2 := by
  refine run_play (fun h hh => ?_) .start
  cases List.eq_of_mem_replicate hh
  exact ⟨hE, hnote⟩

/-- The calls of the next pass are one of its paths. -/
theorem path_replacing {E : Surroundings World}
    (hE : ∀ call w, E.answers call w ((World.changing drain false).answer call w).1
      ((World.changing drain false).answer call w).2)
    (hnote : E.note = World.handler.note) (w₀ : World) (n calls : Nat) :
    Path E (ensure smallSettings ⟨0, 0⟩ (stored smallConfig (replacing w₀ n).2)) (replacing w₀ n).2
      (replacingNext w₀ n calls).1 (replacingNext w₀ n calls).2.1 (replacingNext w₀ n calls).2.2 :=
  path_advance hE hnote calls _ _

end Masters

/-- The stage that a round was in. -/
def Round.stage (r : Round AzureConfig) : MastersStage :=
  (Masters.stateOf r.given).stage MastersStage

/-- Whether a round is the last one of a run in a stage, with the rounds behind it. -/
structure LastIn (stage : MastersStage) (rounds : List (Round AzureConfig)) (r : Round AzureConfig)
    (after : List (Round AzureConfig)) : Prop where
  split : ∃ before, rounds = before ++ r :: after
  isIn : r.stage = stage
  last : ∀ r' ∈ after, r'.stage ≠ stage

namespace LastIn

variable {stage : MastersStage} {rounds after : List (Round AzureConfig)} {r r' : Round AzureConfig}

/-- A round in a stage is the last one there when it has just been. -/
theorem here (rounds : List (Round AzureConfig)) (h : r.stage = stage) :
    LastIn stage (rounds ++ [r]) r [] :=
  ⟨⟨rounds, rfl⟩, h, fun _ hr => by cases hr⟩

/-- It stays so as long as the rounds are in other stages. -/
theorem append (h : LastIn stage rounds r after) (hr : r'.stage ≠ stage) :
    LastIn stage (rounds ++ [r']) r (after ++ [r']) := by
  obtain ⟨⟨before, rfl⟩, hstage, hlast⟩ := h
  refine ⟨⟨before, ?_⟩, hstage, ?_⟩
  · rw [List.append_assoc, List.cons_append]
  · intro x hx
    rcases List.mem_append.1 hx with hx | hx
    · exact hlast x hx
    · cases List.mem_singleton.1 hx
      exact hr

end LastIn

end TenantFleet
