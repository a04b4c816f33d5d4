/-
# A pass is all or nothing

A pass writes once, at its end, or not at all. What it writes is the map that it found, in the next
stage, with the checksums of what was submitted and the time of a wait; every other entry stays as
it was found.

* `Reckons` : what a stage does with the checksums;
* `Kept` : what the map that is written has in common with the one that was found;
* `Atomic` : how a pass ends;
* `atomic_of_path` : every pass ends so, when its stage keeps to the table.
-/
import TenantFleet.Proofs.Pass.Settlement
import TenantFleet.Proofs.Program.Result

namespace TenantFleet

open Program

/-! ## Checksums -/

variable {σ : Type} [Stage σ] {g : ResourceGroup} {name : String} {s s' loaded : HandlerState}
  {trace trace' : List Asked}

/-- Whether the deployment of a name was found to have failed, or to be missing. -/
def Gone (g : ResourceGroup) (name : String) (trace : List Asked) : Prop :=
  (∃ d, ⟨.cloud g.account g.name (.getDeployment name), .ok d⟩ ∈ trace ∧ d.observe = .failed) ∨
    ∃ e : AzureError, e.isNotFound = true ∧
    ⟨.cloud g.account g.name (.getDeployment name), .error e⟩ ∈ trace

/-- What a stage may do with the checksums in its map. -/
inductive Reckons (g : ResourceGroup) (name : String) (s : HandlerState) :
    HandlerState → List Asked → Prop
  /-- It leaves them. -/
  | leaves {trace : List Asked} : Reckons g name s s trace
  /-- It keeps those of a deployment that it has submitted. -/
  | submits {t : DeploymentTemplate} {operation : Operation} {trace : List Asked}
    (hasked : ⟨.cloud g.account g.name (.putDeployment name t.deployment), .ok operation⟩ ∈ trace) :
    Reckons g name s (s.setChecksums t.checksums.1 t.checksums.2) trace
  /-- It forgets those of a deployment that has gone. -/
  | forgets {trace : List Asked} (hgone : Gone g name trace) :
      Reckons g name s s.clearChecksums trace

/-- What was asked behind it changes nothing. -/
theorem Reckons.mono (h : Reckons g name s s' trace) (hsub : trace ⊆ trace') :
    Reckons g name s s' trace' := by
  cases h with
  | leaves => exact .leaves
  | submits hasked => exact .submits (hsub hasked)
  | forgets hgone =>
    refine .forgets (hgone.imp ?_ ?_)
    · exact fun ⟨d, hd, hfailed⟩ => ⟨d, hsub hd, hfailed⟩
    · exact fun ⟨e, hmissing, he⟩ => ⟨e, hmissing, hsub he⟩

/-- No other entry is touched. -/
theorem Reckons.get? (h : Reckons g name s s' trace) {key : String}
    (htemplate : key ≠ HandlerState.templateKey)
    (hparameters : key ≠ HandlerState.parametersKey) : s'.values.get? key = s.values.get? key := by
  cases h with
  | leaves => rfl
  | submits hasked =>
    exact (Dict.get?_insert_of_ne _ _ (Ne.symm hparameters)).trans
      (Dict.get?_insert_of_ne _ _ (Ne.symm htemplate))
  | forgets hgone =>
    exact (Dict.get?_erase_of_ne _ (Ne.symm hparameters)).trans
      (Dict.get?_erase_of_ne _ (Ne.symm htemplate))

/-- Submitting a template keeps its checksums only when the submission was accepted. -/
theorem reckons_submitIfChanged {t : DeploymentTemplate} {result : Bool × HandlerState}
    (h : Yields (submitIfChanged g name s t) trace result) : Reckons g name s result.2 trace := by
  unfold submitIfChanged at h
  split at h
  · cases (yields_done.1 h).2
    exact .leaves
  · rename_i hdrift
    unfold drift at hdrift
    split at hdrift
    · cases hdrift
    · rename_i template parameters hchecksums
      obtain ⟨operation, before, after, rfl, hput, hend⟩ := yields_bind.1 h
      cases (yields_done.1 hend).2
      rw [yields_groupCall.1 hput]
      have hset : Reckons g name s (s.setChecksums t.checksums.1 t.checksums.2)
          ([⟨.cloud g.account g.name (.putDeployment name t.deployment), .ok operation⟩] ++
            after) :=
        .submits (List.mem_append_left _ List.mem_cons_self)
      rw [Option.some.inj hdrift] at hset
      exact hset

/-- A deployment is found to have failed, or to be missing. -/
theorem gone_of_observe {state : DeploymentState}
    (h : Yields (observeDeployment g name) trace state)
    (hstate : state = .failed ∨ state = .missing) : Gone g name trace := by
  obtain ⟨found, before, after, rfl, hfound, hend⟩ := yields_bind.1 h
  rcases yields_find?.1 hfound with ⟨d, rfl, rfl⟩ | ⟨e, hmissing, rfl, rfl⟩
  · have hobserve : d.observe = state := Except.ok.inj (yields_done.1 hend).2
    refine Or.inl ⟨d, List.mem_append_left _ List.mem_cons_self, ?_⟩
    rcases hstate with rfl | rfl
    · exact hobserve
    · unfold Deployment.observe at hobserve
      split at hobserve
      · cases hobserve
      · split at hobserve <;> cases hobserve
  · exact Or.inr ⟨e, hmissing, List.mem_append_left _ List.mem_cons_self⟩

/-! ## The map that is written -/

/-- What the map that is written has in common with the one that was found. -/
structure Kept (g : ResourceGroup) (name : String) (loaded : HandlerState) (source : σ)
    (now : Timestamp) (trace : List Asked) (t : Transition σ) (values : Dict String) : Prop where
  /-- The table has the transition. -/
  valid : t.validate source = .ok ()
  /-- The stage is that of the transition. -/
  stage : values.get? HandlerState.stageKey = some (Stage.name t.stage)
  /-- The time is that of the pass when the stage waits, and else the one that was found. -/
  touch : values.get? HandlerState.touchKey =
    if t.waits then some now.seconds else loaded.values.get? HandlerState.touchKey
  /-- The checksums are those that were found, or those of a deployment that the pass has submitted,
  or none when the deployment has gone. -/
  checksums : (values.get? HandlerState.templateKey = loaded.templateChecksum ∧
      values.get? HandlerState.parametersKey = loaded.parametersChecksum) ∨
    (∃ (d : DeploymentTemplate) (operation : Operation),
      ⟨.cloud g.account g.name (.putDeployment name d.deployment), .ok operation⟩ ∈ trace ∧
      values.get? HandlerState.templateKey = some d.checksums.1 ∧
      values.get? HandlerState.parametersKey = some d.checksums.2) ∨
    (Gone g name trace ∧ values.get? HandlerState.templateKey = none ∧
      values.get? HandlerState.parametersKey = none)
  /-- Every other entry is as it was found. -/
  others : ∀ key, key ≠ HandlerState.stageKey → key ≠ HandlerState.templateKey →
    key ≠ HandlerState.parametersKey → key ≠ HandlerState.touchKey →
    values.get? key = loaded.values.get? key

/-- A transition leaves the entries but the stage, and but the time unless it waits. -/
theorem get?_after (s : HandlerState) (t : Transition σ) (now : Timestamp) {key : String}
    (hstage : key ≠ HandlerState.stageKey)
    (htouch : key = HandlerState.touchKey → t.waits = false) :
    (s.after t now).values.get? key = s.values.get? key := by
  have hset : (s.setStage t.stage).values.get? key = s.values.get? key :=
    Dict.get?_insert_of_ne _ _ (Ne.symm hstage)
  unfold HandlerState.after
  split
  · rename_i hwaits
    refine (Dict.get?_insert_of_ne _ _ fun heq => ?_).trans hset
    rw [htouch heq.symm] at hwaits
    cases hwaits
  · exact hset

/-- The map of an outcome is kept so. -/
theorem kept_of_reckons {source : σ} {o : Outcome σ} (now : Timestamp)
    (hfollows : Stage.follows source o.transition.stage = true)
    (h : Reckons g name loaded o.state trace) :
    Kept g name loaded source now trace o.transition (o.state.after o.transition now).values where
  valid := (Transition.validate_eq_ok_iff _ _).2 hfollows
  stage := stage_after _ _ _
  touch := by
    by_cases hwaits : o.transition.waits = true
    · rw [if_pos hwaits]
      unfold HandlerState.after
      rw [if_pos hwaits]
      exact Dict.get?_insert_self _ _ _
    · rw [if_neg hwaits, get?_after _ _ _ (by decide) fun _ => Bool.eq_false_iff.2 hwaits]
      exact h.get? (by decide) (by decide)
  checksums := by
    obtain ⟨htemplate, hparameters⟩ := checksums_of_after o.state o.transition now
    unfold HandlerState.templateChecksum at htemplate
    unfold HandlerState.parametersChecksum at hparameters
    rw [htemplate, hparameters]
    generalize o.state = s at h
    cases h with
    | leaves => exact Or.inl ⟨rfl, rfl⟩
    | @submits d operation _ hasked =>
      exact Or.inr (Or.inl ⟨d, operation, hasked, HandlerState.checksums_setChecksums loaded _ _⟩)
    | forgets hgone => exact Or.inr (Or.inr ⟨hgone, HandlerState.checksums_clearChecksums loaded⟩)
  others key hstage htemplate hparameters htouch := by
    rw [get?_after _ _ _ hstage fun heq => absurd heq htouch]
    exact h.get? htemplate hparameters

/-! ## The end of a pass -/

section

variable (settings : PassSettings) (now : Timestamp) (handler : String) (target : StatusTarget)
  (g : ResourceGroup) (name : String) (loaded : HandlerState) (source : σ)
  (work : Program (Outcome σ))

/-- The ways a pass may end: its calls, its result, and the metrics behind it. -/
inductive Atomic (m : Metrics) : List Asked → Except Error Nat → Metrics → Prop
  /-- The stage has failed, with no refusal but one that it was answered: nothing is written. -/
  | failed {trace : List Asked} {e : Error} {m' : Metrics}
    (hwork : Path metering work m trace (done (.error e)) m')
    (hrefusal : e.isRefusal = true → ∃ a ∈ trace, a.Fails e)
    (hwrites : ∀ a ∈ trace, a.call.keepsStatus) (hcount : m'.transitions = m.transitions) :
    Atomic m trace (.error e) m'
  /-- The write has lost against another one: the pass is made again later. -/
  | lost {before : List Asked} {o : Outcome σ} {values : Dict String} {e : Error} {m' : Metrics}
    (hwork : Path metering work m before (done (.ok o)) m')
    (hkept : Kept g name loaded source now before o.transition values)
    (hwrites : ∀ a ∈ before, a.call.keepsStatus) (hconflict : e.isConflict = true)
    (hcount : m'.transitions = m.transitions) :
    Atomic m (before ++ [⟨.saveStatus target handler values, .error e⟩]) (.ok settings.wait) m'
  /-- The write has failed otherwise, and the pass with it. -/
  | refused {before : List Asked} {o : Outcome σ} {values : Dict String} {e : Error} {m' : Metrics}
    (hwork : Path metering work m before (done (.ok o)) m')
    (hkept : Kept g name loaded source now before o.transition values)
    (hwrites : ∀ a ∈ before, a.call.keepsStatus) (hconflict : e.isConflict = false)
    (hcount : m'.transitions = m.transitions) :
    Atomic m (before ++ [⟨.saveStatus target handler values, .error e⟩]) (.error e) m'
  /-- The write is done: the pass ends with the delay of a wait, or a second, and a change of stage
  is counted. -/
  | written {before : List Asked} {o : Outcome σ} {values : Dict String} {m₁ m' : Metrics}
    (hwork : Path metering work m before (done (.ok o)) m₁)
    (hkept : Kept g name loaded source now before o.transition values)
    (hwrites : ∀ a ∈ before, a.call.keepsStatus)
    (hcount : m'.transitions = if o.transition.stage = source then m.transitions
      else m.transitions.bump [handler, Stage.name source, Stage.name o.transition.stage]) :
    Atomic m (before ++ [⟨.saveStatus target handler values, .ok ()⟩])
      (.ok (o.transition.delay.getD 1)) m'

end

variable {settings : PassSettings} {now : Timestamp} {handler : String} {target : StatusTarget}
  {source : σ} {work : Program (Outcome σ)} {m m' : Metrics} {r : Except Error Nat}

/-- A pass ends in one of these ways when its stage makes no writes, keeps to the table, and does
what it may do with the checksums. -/
theorem atomic_of_path (hcalls : Asks Call.keepsStatus work)
    (hresults : Results (fun o => Stage.follows source o.transition.stage = true) work)
    (hreckons : ∀ {trace o}, Yields work trace o → Reckons g name loaded o.state trace)
    (path : Path metering (work.bind (persist settings now handler target source)) m trace
      (done r) m') :
    Atomic settings now handler target g name loaded source work m trace r m' := by
  rcases pass_cases path with ⟨rest, hrest, heq⟩ |
    ⟨o, before, m₁, answer, m₂, hdone, hfollows, turn, rfl, hend⟩
  · cases rest with
    | done result =>
      cases result with
      | ok o =>
        -- The table has the transition, so the write is still to be made.
        replace heq : _ = persist settings now handler target source o := heq
        rw [persist_eq settings now handler target (hresults.good hrest.yields)] at heq
        cases heq
      | error e =>
        cases heq
        exact .failed hrest (hresults.bad hrest.forget) (hcalls.of_path hrest)
          (hresults.counts hrest)
    | note event rest => cases heq
    | ask c resume => cases heq
  · cases turn
    have hkept := kept_of_reckons now hfollows (hreckons hdone.yields)
    have hwrites := hcalls.of_path hdone
    have hcount := hresults.counts hdone
    cases answer with
    | error e =>
      unfold afterWrite at hend
      dsimp only at hend
      split at hend
      · rename_i hconflict
        cases hend
        exact .lost hdone hkept hwrites hconflict hcount
      · rename_i hconflict
        cases hend
        exact .refused hdone hkept hwrites (Bool.eq_false_iff.2 hconflict) hcount
    | ok a =>
      unfold afterWrite changeOf at hend
      dsimp only at hend
      split at hend
      · rename_i hsame
        cases hend
        refine .written hdone hkept hwrites ?_
        rw [if_pos hsame]
        exact hcount
      · rename_i hchanged
        cases hend with
        | note hend =>
          cases hend
          refine .written hdone hkept hwrites ?_
          rw [if_neg hchanged, ← hcount]
          rfl

end TenantFleet
