/-
# The way to the removal of the workers

A run comes to the removal of the old workers only through the gates of the stages before it, in
their order. When each pass reads what was stored last, there are no other passes on the way. A pass
that reads what was stored before may have others on its way, but the gates were passed for what it
reads all the same.

* `Runs` : the runs of the passes over a pool, which read some of what was stored;
* `BehindGrown`, `BehindClosed`, `BehindReplaced` : the rounds that led behind the gates;
* `Surging.step` : a pass that keeps to its gate goes on with the replacement;
* `surge_gated` : all passes keep to their gates, and all removals come behind the gates.
-/
import TenantFleet.Proofs.Machine.Settled
import TenantFleet.Proofs.Workers.Surge

namespace TenantFleet

open Program
open scoped List

/-- Whether a stage comes behind a gate of the replacement. -/
def WorkersStage.gated : WorkersStage → Bool
  | .cordonOldWorkers | .waitForWorkersToBecomeReady | .scaleDown => true
  | _ => false

namespace Workers

variable {x : Scope} {now : Timestamp} {maps : HandlerMaps} {stored stored' : Stored}
  {trace : List Asked} {rounds sub : List (Round Scope)} {r : Round Scope}
  {seen : Stored → List HandlerMaps} {target : WorkersStage} {q : Program Nat}

/-! ## Rounds behind a gate -/

/-- Whether a gate was passed in a round, and all rounds after it found the same stage. -/
def Behind (gate : List (Round Scope) → Round Scope → Prop) (stage : WorkersStage)
    (rounds : List (Round Scope)) : Prop :=
  ∃ before r rest, rounds = before ++ r :: rest ∧ gate before r ∧
  ∀ r' ∈ rest, stageOf r'.given = stage

/-- Whether the scale set was found doubled, and the rounds since then were to close the old
workers. -/
def BehindGrown : List (Round Scope) → Prop :=
  Behind (fun _ r => stageOf r.given = .scaleUp ∧ Grown r.given r.asked) .cordonOldWorkers

/-- Whether the old workers were closed after that, and the rounds since then were to wait for the
new ones. -/
def BehindClosed : List (Round Scope) → Prop :=
  Behind (fun before r => BehindGrown before ∧ stageOf r.given = .cordonOldWorkers ∧
    Closed r.given r.asked) .waitForWorkersToBecomeReady

/-- Whether the new workers were found ready after that, and the rounds since then were to remove
the old ones. -/
def BehindReplaced : List (Round Scope) → Prop :=
  Behind (fun before r => BehindClosed before ∧ stageOf r.given = .waitForWorkersToBecomeReady ∧
    Replaced r.given r.asked) .scaleDown

/-- Whether rounds led to a stage through the gates before it. -/
def Surging : WorkersStage → List (Round Scope) → Prop
  | .cordonOldWorkers, rounds => BehindGrown rounds
  | .waitForWorkersToBecomeReady, rounds => BehindClosed rounds
  | .scaleDown, rounds => BehindReplaced rounds
  | _, _ => True

section

variable {gate : List (Round Scope) → Round Scope → Prop} {stage : WorkersStage}

/-- A gate is passed. -/
theorem Behind.enter (h : gate rounds r) : Behind gate stage (rounds ++ [r]) :=
  ⟨rounds, r, [], rfl, h, fun _ h => by cases h⟩

/-- A round that finds the stage behind a gate stays behind it. -/
theorem Behind.stay (h : Behind gate stage rounds) (hstage : stageOf r.given = stage) :
    Behind gate stage (rounds ++ [r]) := by
  obtain ⟨before, r₀, rest, rfl, hgate, hrest⟩ := h
  refine ⟨before, r₀, rest ++ [r], List.append_assoc _ _ _, hgate, fun r' hr' => ?_⟩
  rcases List.mem_append.1 hr' with hr' | hr'
  · exact hrest r' hr'
  · rw [List.mem_singleton.1 hr', hstage]

end

/-- A stage that no gate leads to needs none. -/
theorem surging_of_not_gated {stage : WorkersStage} (h : stage.gated = false) :
    Surging stage rounds := by
  cases stage <;> trivial

/-- A round that finds a stage stays in it. -/
theorem Surging.stay (h : Surging (stageOf r.given) rounds) :
    Surging (stageOf r.given) (rounds ++ [r]) := by
  generalize hstage : stageOf r.given = stage at h ⊢
  cases stage with
  | cordonOldWorkers => exact Behind.stay h hstage
  | waitForWorkersToBecomeReady => exact Behind.stay h hstage
  | scaleDown => exact Behind.stay h hstage
  | _ => trivial

/-- A pass that keeps to its gate goes on with the replacement. -/
theorem Surging.step (h : Surging (stageOf x) rounds) (hgated : Gated x trace q)
    (hkeeps : Keeps trace target) (hfollows : Stage.follows (stageOf x) target = true) :
    Surging target (rounds ++ [⟨x, trace⟩]) := by
  by_cases hsame : target = stageOf x
  · rw [hsame]
    exact Surging.stay (r := ⟨x, trace⟩) h
  have hsuccessor : target ∈ (stageOf x).successors := by
    unfold Stage.follows at hfollows
    rw [Bool.or_eq_true, decide_eq_true_eq, decide_eq_true_eq] at hfollows
    exact hfollows.resolve_left hsame
  generalize hsource : stageOf x = source at h hsuccessor
  cases target with
  | cordonOldWorkers =>
    obtain rfl : source = .scaleUp := by
      cases source <;> simp [WorkersStage.successors] at hsuccessor ⊢
    exact Behind.enter ⟨hsource, hgated.grown hsource hkeeps⟩
  | waitForWorkersToBecomeReady =>
    obtain rfl : source = .cordonOldWorkers := by
      cases source <;> simp [WorkersStage.successors] at hsuccessor ⊢
    exact Behind.enter ⟨h, hsource, hgated.closed hsource hkeeps⟩
  | scaleDown =>
    obtain rfl : source = .waitForWorkersToBecomeReady := by
      cases source <;> simp [WorkersStage.successors] at hsuccessor ⊢
    exact Behind.enter ⟨h, hsource, hgated.replaced hsource hkeeps⟩
  | _ => trivial

/-! ## Runs -/

/-- The stage that is stored. -/
abbrev storedStage (maps : HandlerMaps) : WorkersStage :=
  (HandlerState.load (some maps) handler).stage WorkersStage

/-- The runs of the passes over a pool, each of which reads some of what was stored, at some
time. -/
def Runs (seen : Stored → List HandlerMaps) (maps : HandlerMaps) :
    List (Round Scope) → Stored → Prop :=
  Rounds storing (fun stored x p =>
    (∃ maps ∈ seen stored, stateOf x.pool = HandlerState.load (some maps) handler) ∧
    ∃ now, p = ensure x now) ⟨maps, []⟩

/-- A pass leaves what is stored, or writes the map of a stage that it keeps. -/
theorem stored_of_pass (path : Path storing (ensure x now) stored trace q stored') :
    stored' = stored ∨ ∃ target maps, stored' = ⟨maps, stored.all⟩ ∧ storedStage maps = target ∧
    Keeps trace target ∧
      Stage.follows (stageOf x) target = true := by
  rw [ensure_eq] at path
  have hwork := keepsStatus_stage x (stateOf x.pool) (stageOf x)
  rcases pass_cases path with ⟨rest, hrest, -⟩ |
    ⟨o, before, stored₁, r, stored₂, hdone, hfollows, turn, rfl, hend⟩
  · exact Or.inl (stored_eq_of_path hwork hrest)
  rw [stored_eq_of_path hwork hdone] at turn
  have hsilent : stored' = stored₂ :=
    hend.silent (J := fun stored => stored = stored₂) rfl fun _ _ h => h
  rw [hsilent]
  rcases turn with rfl | ⟨rfl, -⟩
  · refine Or.inr ⟨o.transition.stage, _, rfl, ?_, ⟨before, _, _, r, rfl, stage_after _ _ _⟩,
      hfollows⟩
    have hload := load_applyTo stored.latest
      ⟨StatusTarget.ofPool x.pool, handler, (o.state.after o.transition now).values⟩
    rw [storedStage, hload]
    exact stage_of_after o.state o.transition now
  · exact Or.inl rfl

/-- Whatever is stored, some of the rounds led to its stage through the gates before it. -/
theorem Runs.surging (hrun : Runs Stored.all maps rounds stored)
    (hstart : (storedStage maps).gated = false) :
    ∀ maps ∈ stored.all, ∃ sub, sub <+ rounds ∧ Surging (storedStage maps) sub := by
  induction hrun with
  | start =>
    intro maps' hmaps'
    cases List.mem_singleton.1 hmaps'
    exact ⟨[], List.Sublist.refl _, surging_of_not_gated hstart⟩
  | @next rounds w w' x p q trace before hp path ih =>
    obtain ⟨⟨maps₀, hmaps₀, hstate⟩, now, rfl⟩ := hp
    have hold : ∀ maps ∈ w.all, ∃ sub, sub <+ rounds ++ [⟨x, trace⟩] ∧
        Surging (storedStage maps) sub := by
      intro maps' hmaps'
      obtain ⟨sub, hsub, hsurging⟩ := ih maps' hmaps'
      exact ⟨sub, hsub.trans (List.sublist_append_left _ _), hsurging⟩
    rcases stored_of_pass path with rfl | ⟨target, maps₁, rfl, htarget, hkeeps, hfollows⟩
    · exact hold
    intro maps' hmaps'
    rcases List.mem_cons.1 hmaps' with rfl | hmaps'
    · -- What was just written: the pass went on from what it read.
      obtain ⟨sub, hsub, hsurging⟩ := ih maps₀ hmaps₀
      have hread : storedStage maps₀ = stageOf x := by rw [storedStage, stageOf, hstate]
      rw [hread] at hsurging
      rw [htarget]
      exact ⟨_, hsub.append (List.Sublist.refl _),
        hsurging.step (gated_of_pass path.forget) hkeeps hfollows⟩
    · exact hold maps' hmaps'

/-- When each pass reads what was stored last, all rounds led to its stage through the gates before
it. -/
theorem Runs.surging_latest (hrun : Runs (fun stored => [stored.latest]) maps rounds stored)
    (hstart : (storedStage maps).gated = false) : Surging (storedStage stored.latest) rounds := by
  induction hrun with
  | start => exact surging_of_not_gated hstart
  | @next rounds w w' x p q trace before hp path ih =>
    obtain ⟨⟨maps₀, hmaps₀, hstate⟩, now, rfl⟩ := hp
    have hread : storedStage w.latest = stageOf x := by
      rw [storedStage, ← List.mem_singleton.1 hmaps₀, stageOf, hstate]
    rw [hread] at ih
    rcases stored_of_pass path with rfl | ⟨target, maps₁, rfl, htarget, hkeeps, hfollows⟩
    · rw [hread]
      exact Surging.stay (r := ⟨x, trace⟩) ih
    · show Surging (storedStage maps₁) _
      rw [htarget]
      exact ih.step (gated_of_pass path.forget) hkeeps hfollows

/-- **The gates of the replacement.** Every pass keeps to the gate of its stage, whatever it is
answered. So in a run that starts outside the replacement, a round that is to remove the old workers
comes behind rounds that found the scale set doubled, closed the old workers, and found the new ones
ready, one after the other; and when each pass reads what was stored last, there are no other rounds
since then. -/
theorem surge_gated :
    (∀ {x : Scope} {now : Timestamp} {trace : List Asked} {q : Program Nat},
      Path .any (ensure x now) () trace q () → Gated x trace q) ∧
    (∀ {maps : HandlerMaps} {earlier later : List (Round Scope)} {r : Round Scope}
      {stored : Stored},
      Runs Stored.all maps (earlier ++ r :: later) stored → (storedStage maps).gated = false →
      stageOf r.given = .scaleDown → ∃ sub, sub <+ earlier ∧ BehindReplaced sub) ∧
    ∀ {maps : HandlerMaps} {earlier later : List (Round Scope)} {r : Round Scope} {stored : Stored},
      Runs (fun stored => [stored.latest]) maps (earlier ++ r :: later) stored →
      (storedStage maps).gated = false → stageOf r.given = .scaleDown → BehindReplaced earlier := by
  refine ⟨gated_of_pass, ?_, ?_⟩
  · intro maps earlier later r stored hrun hstart hstage
    obtain ⟨stored₁, p, q, stored₂, hbefore, ⟨⟨maps₀, hmaps₀, hstate⟩, -⟩, -⟩ := hrun.exists_pass
    obtain ⟨sub, hsub, hsurging⟩ := Runs.surging hbefore hstart maps₀ hmaps₀
    have hread : storedStage maps₀ = .scaleDown := by rw [← hstage, storedStage, stageOf, hstate]
    rw [hread] at hsurging
    exact ⟨sub, hsub, hsurging⟩
  · intro maps earlier later r stored hrun hstart hstage
    obtain ⟨stored₁, p, q, stored₂, hbefore, ⟨⟨maps₀, hmaps₀, hstate⟩, -⟩, -⟩ := hrun.exists_pass
    have hsurging := Runs.surging_latest hbefore hstart
    have hread : storedStage stored₁.latest = .scaleDown := by
      rw [← hstage, ← List.mem_singleton.1 hmaps₀, storedStage, stageOf, hstate]
    rw [hread] at hsurging
    exact hsurging

/-! ## A pool whose workers are replaced -/

/-- Reading what was stored last is reading some of what was stored. -/
theorem Runs.of_latest (hrun : Runs (fun stored => [stored.latest]) maps rounds stored) :
    Runs Stored.all maps rounds stored := by
  induction hrun with
  | start => exact .start
  | next before hp path ih =>
    obtain ⟨⟨maps₀, hmaps₀, hstate⟩, hnow⟩ := hp
    refine .next ih ⟨⟨maps₀, ?_, hstate⟩, hnow⟩ path
    rw [List.mem_singleton.1 hmaps₀]
    exact List.mem_cons_self

/-- A world with a worker of an older version and a new one, both of which run. -/
def grownWorld : World where
  cluster := {
    id := "sub-tenant"
    scaleSets := Dict.empty.insert keptScope.scaleSet keptScaleSet
    instances := Dict.empty.insert keptScope.scaleSet
      (keptInstances.map fun v => { v with provisioningState := some provisioningSucceeded })
    deployments := Dict.empty.insert keptScope.scaleSet
      { provisioningState := some provisioningSucceeded } }
  nodes := Partition.byName (keptNodes true)
  clusters := Table.put .empty "default" "abc12" { metadata := {} }
  template := .null

/-- What is stored when the scale set is to be doubled. -/
def doublingMaps : HandlerMaps :=
  Dict.empty.insert handler (Dict.empty.insert HandlerState.stageKey
    (Stage.name WorkersStage.scaleUp))

/-- The pool as it is stored. -/
def surgeScope (stored : Stored) : Scope :=
  { keptScope with pool := { keptScope.pool with status := some { resources := stored.latest } } }

/-- The next pass over the pool. -/
def surgePass (stored : Stored) : Program Nat := ensure (surgeScope stored) ⟨0, 0⟩

/-- What is stored after a number of passes. -/
def surgeStore (n : Nat) : Stored :=
  (fun stored => (run (keeper grownWorld) (surgePass stored) stored).2)^[n] ⟨doublingMaps, []⟩

/-- The calls of the fourth pass, what is left of it, and what is stored then. -/
def surgeEnd : List Asked × Program Nat × Stored :=
  advance (keeper grownWorld) 12 (surgePass (surgeStore 3)) (surgeStore 3)

/-- The pool removes its old worker in the fourth pass, behind the gates of the three before it. -/
theorem surge_gated_kept : (storedStage doublingMaps).gated = false ∧
    stageOf (surgeScope (surgeStore 3)) = .scaleDown ∧
    surgeEnd.1.any (fun a => a.call.removes) = true ∧
    Path .any (surgePass (surgeStore 3)) () surgeEnd.1 surgeEnd.2.1 () ∧
    Gated (surgeScope (surgeStore 3)) surgeEnd.1 surgeEnd.2.1 ∧
    ∃ earlier,
      Runs Stored.all doublingMaps (earlier ++ [⟨surgeScope (surgeStore 3), surgeEnd.1⟩])
        surgeEnd.2.2 ∧
      (∃ sub, sub <+ earlier ∧ BehindReplaced sub) ∧
      Runs (fun stored => [stored.latest]) doublingMaps
        (earlier ++ [⟨surgeScope (surgeStore 3), surgeEnd.1⟩])
        surgeEnd.2.2 ∧
      BehindReplaced earlier := by
  have hstart : (storedStage doublingMaps).gated = false := by decide +kernel
  have hstage : stageOf (surgeScope (surgeStore 3)) = .scaleDown := by decide +kernel
  have hpass : ∀ stored, (∃ maps ∈ [stored.latest], stateOf (surgeScope stored).pool =
      HandlerState.load (some maps) handler) ∧
        ∃ now, surgePass stored = ensure (surgeScope stored) now :=
    fun stored => ⟨⟨stored.latest, List.mem_cons_self, rfl⟩, ⟨0, 0⟩, rfl⟩
  have hthree : ∃ earlier, Runs (fun stored => [stored.latest]) doublingMaps earlier
      (surgeStore 3) :=
    Rounds.exists_of_run (answers_keeper grownWorld) rfl
      (fun stored => (surgeScope stored, surgePass stored))
      hpass 3 ⟨doublingMaps, []⟩
  obtain ⟨earlier, hearlier⟩ := hthree
  have path := path_advance (E := storing) (answers_keeper grownWorld) rfl 12
    (surgePass (surgeStore 3)) (surgeStore 3)
  have hrun : Runs (fun stored => [stored.latest]) doublingMaps
      (earlier ++ [⟨surgeScope (surgeStore 3), surgeEnd.1⟩]) surgeEnd.2.2 :=
    .next hearlier (hpass (surgeStore 3)) path
  refine ⟨hstart, hstage, by decide +kernel, path.forget, surge_gated.1 path.forget, earlier,
    hrun.of_latest, ?_, hrun, ?_⟩
  · exact surge_gated.2.1 hrun.of_latest hstart hstage
  · exact surge_gated.2.2 hrun hstart hstage

end Workers

end TenantFleet
