/-
# The gates of a pass that replaces the workers

The scale set is doubled, the old workers are closed for new work, the new ones are waited for, and
only then anything is removed. Each of these stages has a gate, and a pass goes on only when it
found that open. The stages that deploy ask nothing about the workers at all.

* `Grown`, `Closed`, `Replaced` : what a pass has seen and done that goes on from a stage;
* `Doubles` : how a pass ends that doubles the scale set;
* `Gated` : what a pass does in the stages of the replacement;
* `gated_of_pass` : every pass keeps to the gates, whatever it is answered.
-/
import TenantFleet.Proofs.Workers.Gates

namespace TenantFleet

open Program

/-- Whether a call removes nodes or instances. -/
def Call.removes : Call → Bool
  | .tenant _ _ (.deleteNode _) | .cloud _ _ (.deleteInstances _ _) => true
  | _ => false

/-- Whether a call changes a scale set. -/
def Call.rescales : Call → Bool
  | .cloud _ _ (.putScaleSet _ _) => true
  | _ => false

namespace Workers

variable {x : Scope} {s : HandlerState} {S : ScaleSet} {L : List Instance} {N : List Node}
  {trace own before after : List Asked} {now : Timestamp} {source target : WorkersStage}

/-! ## What a pass does -/

/-- The stage that a pass finds. -/
abbrev stageOf (x : Scope) : WorkersStage := (stateOf x.pool).stage WorkersStage

/-- Whether a pass has asked for a stage to be kept. -/
def Keeps (trace : List Asked) (target : WorkersStage) : Prop :=
  ∃ before object values r, trace = before ++ [⟨.saveStatus object handler values, r⟩] ∧
    values.get? HandlerState.stageKey = some (Stage.name target)

/-- What a pass has seen that goes on from the doubling: everything deployed is there, and the scale
set has twice as many instances as there are old workers. -/
structure Grown (x : Scope) (trace : List Asked) : Prop extends Opened x trace where
  enough : ∃ S L N, Surveyed x S L N trace ∧ ((workersOf x S L N).old.length : Int) * 2 ≤ S.capacity

/-- What a pass has seen and done that goes on from closing the old workers. -/
def Closed (x : Scope) (trace : List Asked) : Prop :=
  ∃ S L N, Surveyed x S L N trace ∧
  (workersOf x S L N).old.length ≤ (workersOf x S L N).new.length ∧
    ∀ w ∈ (workersOf x S L N).old, Cordoned x trace w

/-- What a pass has seen that goes on to the removal. -/
def Replaced (x : Scope) (trace : List Asked) : Prop :=
  ∃ S L N, Surveyed x S L N trace ∧ (∀ w ∈ (workersOf x S L N).new, w.node.ready = true) ∧
    (workersOf x S L N).old.length ≤ (workersOf x S L N).new.length

/-- How a pass ends that doubles the scale set: the update fails, or the wait for its end, or the
pass stays in its stage. -/
inductive Doubles (x : Scope) (S : ScaleSet) (desired : Int) : List Asked → Except Error Nat → Prop
  | refused {value : ScaleSet} {e : AzureError} (hvalue : OnlyResized S value desired "false") :
    Doubles x S desired [⟨cloudCall x (.putScaleSet x.scaleSet value), .error e⟩]
      (.error (.azure e))
  | lost {value : ScaleSet} {operation : Operation} {e : AzureError}
    (hvalue : OnlyResized S value desired "false") :
    Doubles x S desired [⟨cloudCall x (.putScaleSet x.scaleSet value), .ok operation⟩,
      ⟨cloudCall x (.wait operation), .error e⟩] (.error (.azure e))
  | stays {value : ScaleSet} {operation : Operation} {values : Dict String}
    {answer : Except Error Unit}
    {r : Except Error Nat} (hvalue : OnlyResized S value desired "false")
    (hstage : values.get? HandlerState.stageKey = some (Stage.name WorkersStage.scaleUp)) :
    Doubles x S desired [⟨cloudCall x (.putScaleSet x.scaleSet value), .ok operation⟩,
      ⟨cloudCall x (.wait operation), .ok ()⟩,
      ⟨.saveStatus (StatusTarget.ofPool x.pool) handler values, answer⟩] r

/-- Whether a call removes nothing, and asks for no smaller scale set than the pass was told. -/
def Spares (x : Scope) (before : List Asked) (call : Call) : Prop :=
  call.removes = false ∧
  ∀ account group name value, call = .cloud account group (.putScaleSet name value) →
    ∃ S, ⟨cloudCall x (.getScaleSet x.scaleSet), .ok S⟩ ∈ before ∧ S.capacity < value.capacity

/-- What a pass does in the stages of the replacement. -/
structure Gated (x : Scope) (trace : List Asked) (q : Program Nat) : Prop where
  /-- It looks at the workers once. -/
  once : ∀ {S L N S' L' N'}, Surveyed x S L N trace → Surveyed x S' L' N' trace →
    S' = S ∧ L' = L ∧ N' = N
  /-- The doubling is left only when everything deployed is there, and there are instances
  enough. -/
  grown : stageOf x = .scaleUp → Keeps trace .cordonOldWorkers → Grown x trace
  /-- With too few instances there is one update of the scale set, which is waited for, and the pass
  stays unless that fails. -/
  doubles : stageOf x = .scaleUp → ∀ {S L N}, Surveyed x S L N trace →
    S.capacity < ((workersOf x S L N).old.length : Int) * 2 → ∀ {r}, q = done r →
    ∃ looked after, trace = looked ++ after ∧ (∀ a ∈ looked, a.call.reads = true) ∧
      Doubles x S ((workersOf x S L N).old.length * 2) after r
  /-- Only old workers are closed, and only when as many new ones have joined. -/
  cordons : stageOf x = .cordonOldWorkers → ∀ {before a after space clusterId name},
    trace = before ++ a :: after → a.call = .tenant space clusterId (.cordonNode name) →
    ∃ S L N, Surveyed x S L N before ∧
    (workersOf x S L N).old.length ≤ (workersOf x S L N).new.length ∧
      ∃ w ∈ (workersOf x S L N).old, w.node.unschedulable = false ∧ a.call = cordonOf x w
  /-- Their stage is left only when all of them are closed, or have gone. -/
  closed : stageOf x = .cordonOldWorkers → Keeps trace .waitForWorkersToBecomeReady → Closed x trace
  /-- Waiting changes nothing. -/
  looks : stageOf x = .waitForWorkersToBecomeReady → ∀ a ∈ trace, a.call.reads = true ∨
    ∃ values, a.call = .saveStatus (StatusTarget.ofPool x.pool) handler values
  /-- The waiting is left only when all new workers are ready, and as many as the old ones. -/
  replaced : stageOf x = .waitForWorkersToBecomeReady → Keeps trace .scaleDown → Replaced x trace
  /-- Before the removal nothing is removed, and the capacity of the scale set that was read only
  grows. -/
  spares : stageOf x ≠ .scaleDown → ∀ {before a after}, trace = before ++ a :: after →
    Spares x before a.call

/-! ## The moments of a pass -/

/-- The calls of a pass are those of its stage, and the write of its outcome when it has come to
one. -/
theorem own_of_pass {q : Program Nat} (path : Path .any (ensure x now) () trace q ()) :
    ∃ own rest, Path .any (stage x (stateOf x.pool) (stageOf x)) () own rest () ∧
      ((trace = own ∧ q = rest.bind (persist x.settings now handler (StatusTarget.ofPool x.pool)
        (stageOf x))) ∨ ∃ o r, rest = done (.ok o) ∧ trace = own ++
          [⟨.saveStatus (StatusTarget.ofPool x.pool) handler
            (o.state.after o.transition now).values, r⟩]) := by
  rw [ensure_eq] at path
  rcases pass_cases path with ⟨rest, hrest, rfl⟩ | ⟨o, own, _, r, _, hown, -, -, rfl, -⟩
  · exact ⟨trace, rest, hrest, Or.inl ⟨rfl, rfl⟩⟩
  · exact ⟨own, _, hown, Or.inr ⟨o, r, rfl, rfl⟩⟩

/-- The stage that a pass asked to be kept is that of its outcome. -/
theorem outcome_of_keeps {q : Program Nat} (path : Path .any (ensure x now) () trace q ())
    (h : Keeps trace target) :
    ∃ own o, Path .any (stage x (stateOf x.pool) (stageOf x)) () own (done (.ok o)) () ∧
      o.transition.stage = target ∧ own <+: trace := by
  obtain ⟨before, object, values, r, hsplit, hstage⟩ := h
  obtain ⟨own, rest, hown, ⟨rfl, -⟩ | ⟨o, r', rfl, htrace⟩⟩ := own_of_pass path
  · -- A stage makes no writes itself.
    rw [hsplit] at hown
    exact ((keepsStatus_stage x _ _).of_issues (hown.issues_of_append before [])).elim
  · rw [htrace] at hsplit
    obtain ⟨-, hsave⟩ := List.append_inj' hsplit rfl
    cases hsave
    refine ⟨own, o, hown, ?_, by rw [htrace]; exact List.prefix_append _ _⟩
    rw [stage_after] at hstage
    rw [← WorkersStage.ofName_name o.transition.stage, Option.some.inj hstage,
      WorkersStage.ofName_name]

/-- The moments of a stage that leaves the map are those of its program. -/
theorem path_keeping {p : Program (Transition WorkersStage)} {q : Program (Outcome WorkersStage)}
    (path : Path .any (keeping s p) () trace q ()) :
    ∃ rest, Path .any p () trace rest () ∧ ∀ o, q = done (.ok o) →
    rest = done (.ok o.transition) := by
  rcases path.bind_cases with ⟨rest, hrest, rfl⟩ | ⟨t, _, before, after, rfl, hrest, hend⟩
  · refine ⟨rest, hrest, fun o ho => ?_⟩
    cases rest with
    | done r =>
      cases r with
      | ok t =>
        cases ho
        rfl
      | error e => cases ho
    | note event rest => cases ho
    | ask c resume => cases ho
  · cases hend
    rw [List.append_nil]
    refine ⟨_, hrest, fun o ho => ?_⟩
    cases ho
    rfl

/-- A part of the calls of a pass that is a survey is one of the pass. -/
theorem surveyed_of_split (htrace : own = before ++ (surveyOf x S L N ++ after))
    (hown : own <+: trace) :
    Surveyed x S L N trace := by
  refine List.IsInfix.trans ⟨before, after, ?_⟩ hown.isInfix
  rw [htrace, List.append_assoc]

/-- A call of a pass is one of its stage, after the same calls, or the write of the outcome. -/
theorem call_of_pass {q : Program Nat} {a : Asked} (path : Path .any (ensure x now) () trace q ())
    (htrace : trace = before ++ a :: after) :
    (∃ own rest, Path .any (stage x (stateOf x.pool) (stageOf x)) () (before ++ a :: own) rest ()) ∨
      ∃ values, a.call = .saveStatus (StatusTarget.ofPool x.pool) handler values := by
  obtain ⟨own, rest, hown, ⟨rfl, -⟩ | ⟨o, r, rfl, hsave⟩⟩ := own_of_pass path
  · rw [htrace] at hown
    exact Or.inl ⟨after, rest, hown⟩
  · rw [htrace] at hsave
    rcases split_of_concat hsave.symm with ⟨-, rfl, -⟩ | ⟨more, -, rfl⟩
    · exact Or.inr ⟨_, rfl⟩
    · exact Or.inl ⟨more, _, hown⟩

/-! ## One look at the workers -/

/-- What comes behind the look at the workers does not look again. -/
theorem looksOnce_behindSurvey {α : Type} {stay : α}
    {rest : Tenant → ScaleSet × Partition → Program α}
    {q : Program α} (hrest : ∀ found,
      Asks (fun call => call ≠ nodesCall x) (rest ⟨x.space, x.clusterId⟩ found))
    (path : Path .any (behindSurvey x stay rest) () trace q ()) : LooksOnce x trace := by
  rcases path_behindSurvey path with ⟨hunseen, -⟩ |
    ⟨looked, S, L, N, after, -, hunseen, rfl, hafter⟩
  · exact hunseen.looksOnce
  · refine Or.inr ⟨looked, S, L, N, after, hunseen, rfl, fun a ha => ?_⟩
    obtain ⟨first, last, rfl⟩ := List.append_of_mem ha
    exact (hrest _).of_issues (hafter.issues_of_append first last)

/-- What the stage does that removes the old workers. -/
def remove (x : Scope) (tenant : Tenant) (found : ScaleSet × Partition) :
    Program (Transition WorkersStage) :=
  (Program.forEach found.2.old (removeWorker x tenant)).bind fun _ =>
    (deleteInstances x (found.2.old.map fun w => w.inst.instanceId)).bind fun _ =>
      (x.group.call (.getScaleSet x.scaleSet)).bind fun scaleSet =>
        (rescale x scaleSet x.machinePool.desired true).bind fun _ =>
          done (.ok (.advance .deploymentUninitialized))

theorem scaleDown_eq (x : Scope) :
    Workers.scaleDown x = behindSurvey x (x.stay .scaleDown) (remove x) := by
  refine congrArg (Program.bind _) (funext fun found => ?_)
  cases found <;> rfl

theorem asks_close (x : Scope) (found : ScaleSet × Partition) :
    Asks (fun call => call ≠ nodesCall x) (close x ⟨x.space, x.clusterId⟩ found) := by
  unfold close
  split
  · trivial
  · refine .bind (.forEach fun w => (asks_cordonWorker w).mono ?_) fun _ => trivial
    rintro _ ⟨-, rfl⟩
    simp

theorem asks_remove (x : Scope) (found : ScaleSet × Partition) :
    Asks (fun call => call ≠ nodesCall x) (remove x ⟨x.space, x.clusterId⟩ found) := by
  have hmissing : ∀ r, Asks (fun call => call ≠ nodesCall x) (Tenant.unlessMissing r) := by
    intro r
    cases r with
    | ok _ => trivial
    | error e =>
      unfold Tenant.unlessMissing
      dsimp only
      split <;> trivial
  have hrescale : ∀ S capacity tag, Asks (fun call => call ≠ nodesCall x)
      (rescale x S capacity tag) :=
    fun S capacity tag => .bind (.groupCall (by simp)) fun _ => .groupCall (by simp)
  refine .bind (.forEach fun w => .bind ⟨by simp, hmissing⟩ fun _ => trivial) fun _ =>
    .bind ?_ fun _ =>
    .bind (.groupCall (by simp)) fun S => .bind (hrescale S _ _) fun _ => trivial
  unfold deleteInstances
  split
  · trivial
  · exact .bind (.groupCall (by simp)) fun _ => .groupCall (by simp)

theorem spares_of_not {call : Call} (hremoves : call.removes = false)
    (hrescales : call.rescales = false) :
    Spares x before call := by
  refine ⟨hremoves, fun account group name value hcall => ?_⟩
  rw [hcall] at hrescales
  cases hrescales

theorem spares_of_reads {call : Call} (h : call.reads = true) : Spares x before call := by
  unfold Call.reads at h
  split at h <;> first | exact spares_of_not rfl rfl | cases h

/-- What a program of the stages that deploy may ask: nothing about the workers. -/
def Aside (x : Scope) (call : Call) : Prop :=
  call ≠ nodesCall x ∧ call.removes = false ∧ call.rescales = false

/-- The stages that do not replace the workers ask nothing about them. -/
theorem aside_stage {source : WorkersStage}
    (hsource : source.phase ≠ .settled ∨ source = .deploymentCompleted) :
    Asks (Aside x) (stage x s source) := by
  have hobserve : Asks (Aside x) (observeDeployment x.group x.scaleSet) := by
    refine .bind (.find? ⟨by simp, rfl, rfl⟩) fun found => ?_
    cases found <;> trivial
  cases source with
  | empty => trivial
  | deploymentUninitialized =>
    refine .bind (.call ⟨by simp, rfl, rfl⟩) fun t => .bind ?_ fun result => trivial
    unfold submitIfChanged
    split
    · trivial
    · exact .bind (.groupCall ⟨by simp, rfl, rfl⟩) fun _ => trivial
  | deploymentInitialized =>
    refine .bind hobserve fun state => ?_
    cases state <;> trivial
  | deploymentCompleted =>
    refine .bind (.call ⟨by simp, rfl, rfl⟩) fun t => ?_
    split <;> trivial
  | _ => simp [WorkersStage.phase] at hsource

/-- A stage looks at the workers once. -/
theorem looksOnce_stage {source : WorkersStage} {q : Program (Outcome WorkersStage)}
    (path : Path .any (stage x s source) () trace q ()) : LooksOnce x trace := by
  have hbehind : ∀ {stay : Transition WorkersStage} {rest : Tenant → ScaleSet × Partition → _},
      (∀ found, Asks (fun call => call ≠ nodesCall x) (rest ⟨x.space, x.clusterId⟩ found)) →
      Path .any (keeping s (behindSurvey x stay rest)) () trace q () → LooksOnce x trace := by
    intro stay rest hrest path
    obtain ⟨_, hown, -⟩ := path_keeping path
    exact looksOnce_behindSurvey hrest hown
  have haside : source.phase ≠ .settled ∨ source = .deploymentCompleted → LooksOnce x trace :=
    fun hsource => looksOnce_of_asks ((aside_stage hsource).mono fun _ h => h.1) path
  cases source with
  | scaleUp =>
    rcases path_scaleUp path with ⟨hunseen, -⟩ | ⟨looked, S, L, N, after, -, hunseen, rfl, hafter⟩
    · exact hunseen.looksOnce
    · refine Or.inr ⟨looked, S, L, N, after, hunseen, rfl, fun a ha => ?_⟩
      rcases path_grow hafter with ⟨-, hgrowing⟩ | ⟨-, rfl, -⟩
      · rcases hgrowing.calls a ha with hcall | ⟨operation, hcall⟩ <;> simp [hcall]
      · cases ha
  | cordonOldWorkers =>
    change Path .any (keeping s (cordonOld x)) () trace q () at path
    rw [cordonOld_eq] at path
    exact hbehind (asks_close x) path
  | waitForWorkersToBecomeReady =>
    change Path .any (keeping s (awaitReady x)) () trace q () at path
    rw [awaitReady_eq] at path
    refine hbehind (fun found => ?_) path
    unfold await
    split <;> trivial
  | scaleDown =>
    change Path .any (keeping s (Workers.scaleDown x)) () trace q () at path
    rw [scaleDown_eq] at path
    exact hbehind (asks_remove x) path
  | empty => exact haside (by decide)
  | deploymentUninitialized => exact haside (by decide)
  | deploymentInitialized => exact haside (by decide)
  | deploymentCompleted => exact haside (by decide)

/-- A pass looks at the workers once. -/
theorem looksOnce_of_pass {q : Program Nat} (path : Path .any (ensure x now) () trace q ()) :
    LooksOnce x trace := by
  obtain ⟨own, rest, hown, ⟨rfl, -⟩ | ⟨o, r, rfl, rfl⟩⟩ := own_of_pass path
  · exact looksOnce_stage hown
  · exact (looksOnce_stage hown).append (by simp)

/-! ## The gates -/

/-- A program that is followed by the write of its outcome has ended only when it failed. -/
theorem failed_of_done {σ : Type} [Stage σ] {settings : PassSettings} {name : String}
    {target : StatusTarget} {source : σ} {rest : Program (Outcome σ)} {r : Except Error Nat}
    (h : rest.bind (persist settings now name target source) = done r)
    (hrest : ∀ o, rest = done (.ok o) → Stage.follows source o.transition.stage = true) :
    ∃ e, rest = done (.error e) ∧ r = .error e := by
  cases rest with
  | done result =>
    cases result with
    | ok o =>
      replace h : persist settings now name target source o = done r := h
      rw [persist_eq settings now name target (hrest o rfl)] at h
      cases h
    | error e =>
      cases h
      exact ⟨e, rfl, rfl⟩
  | note event rest => cases h
  | ask c resume => cases h

/-- The doubling is left behind its gate. -/
theorem grown_of_keeps {q : Program Nat} (path : Path .any (ensure x now) () trace q ())
    (hstage : stageOf x = .scaleUp) (h : Keeps trace .cordonOldWorkers) : Grown x trace := by
  obtain ⟨own, o, hown, htarget, hprefix⟩ := outcome_of_keeps path h
  rw [hstage] at hown
  rcases path_scaleUp hown with ⟨-, hstays⟩ | ⟨looked, S, L, N, after, hopened, -, hsplit, hafter⟩
  · exact absurd htarget (hstays o rfl)
  rcases path_grow hafter with ⟨-, hgrowing⟩ | ⟨henough, -, -⟩
  · -- A pass that doubles the scale set stays.
    cases hgrowing with
    | starts hq => exact absurd rfl (hq (.ok o))
    | requested operation hq => exact absurd rfl (hq (.ok o))
    | grown operation => cases htarget
  · have hlooked : looked ⊆ trace := by
      refine List.Subset.trans ?_ hprefix.subset
      rw [hsplit]
      exact List.subset_append_left _ _
    exact ⟨hopened.mono hlooked, S, L, N, surveyed_of_split hsplit hprefix, henough⟩

/-- With too few instances the scale set is doubled. -/
theorem doubles_of_pass {r : Except Error Nat}
    (path : Path .any (ensure x now) () trace (done r) ())
    (hstage : stageOf x = .scaleUp) (hsurveyed : Surveyed x S L N trace)
    (hfew : S.capacity < ((workersOf x S L N).old.length : Int) * 2) :
    ∃ looked after, trace = looked ++ after ∧ (∀ a ∈ looked, a.call.reads = true) ∧
      Doubles x S ((workersOf x S L N).old.length * 2) after r := by
  obtain ⟨own, rest, hown, hend⟩ := own_of_pass path
  rw [hstage] at hown hend
  rcases path_scaleUp hown with ⟨hunseen, -⟩ | ⟨looked, S', L', N', after, -, hunseen, rfl, hafter⟩
  · -- The nodes were told, so there was a survey.
    have htold := told_of_surveyed hsurveyed
    rcases hend with ⟨rfl, -⟩ | ⟨o, r', -, rfl⟩
    · exact absurd rfl ((hunseen _ htold).2 N)
    · rcases List.mem_append.1 htold with htold | htold
      · exact absurd rfl ((hunseen _ htold).2 N)
      · cases List.mem_singleton.1 htold
  have hprefix : looked ++ (surveyOf x S' L' N' ++ after) <+: trace := by
    rcases hend with ⟨rfl, -⟩ | ⟨o, r', -, rfl⟩
    · exact List.prefix_refl _
    · exact List.prefix_append _ _
  obtain ⟨rfl, rfl, rfl⟩ := (looksOnce_of_pass path).unique hsurveyed
    (surveyed_of_split rfl hprefix)
  rcases path_grow hafter with ⟨-, hgrowing⟩ | ⟨henough, -, -⟩
  · have hresized := onlyResized_resize S' ((workersOf x S' L' N').old.length * 2) false
    have hlooked : ∀ a ∈ looked ++ surveyOf x S' L' N', a.call.reads = true := by
      intro a ha
      rcases List.mem_append.1 ha with ha | ha
      · exact (hunseen a ha).1
      · simp only [List.mem_cons, List.not_mem_nil, or_false] at ha
        rcases ha with rfl | rfl | rfl <;> rfl
    rcases hend with ⟨rfl, hr⟩ | ⟨o, r', rfl, rfl⟩
    · obtain ⟨e, hrest, rfl⟩ := failed_of_done hr.symm (by
        rintro o rfl
        cases hgrowing with
        | starts hq => exact absurd rfl (hq (.ok o))
        | requested operation hq => exact absurd rfl (hq (.ok o))
        | grown operation => exact follows_self _)
      refine ⟨_, after, (List.append_assoc _ _ _).symm, hlooked, ?_⟩
      cases hgrowing with
      | starts hq => exact absurd hrest (hq _)
      | refused e =>
        cases hrest
        exact .refused hresized
      | requested operation hq => exact absurd hrest (hq _)
      | lost operation e =>
        cases hrest
        exact .lost hresized
      | grown operation => cases hrest
    · refine ⟨_, _, by rw [List.append_assoc, List.append_assoc, List.append_assoc], hlooked, ?_⟩
      cases hgrowing with
      | starts hq => exact absurd rfl (hq (.ok o))
      | requested operation hq => exact absurd rfl (hq (.ok o))
      | grown operation =>
        refine .stays hresized ?_
        rw [stage_after]
        rfl
  · exact absurd hfew (Int.not_lt.2 henough)

/-- A call only looks, or it comes behind the look at the workers. -/
theorem reads_or_behind {looked more : List Asked} {a : Asked} (hlooked : Unseen x looked)
    (hsplit : before ++ a :: after = looked ++ (surveyOf x S L N ++ more)) :
    a.call.reads = true ∨ ∃ between, before = looked ++ (surveyOf x S L N ++ between) ∧
      more = between ++ a :: after := by
  have hreads : a ∈ looked ++ surveyOf x S L N → a.call.reads = true := by
    intro ha
    rcases List.mem_append.1 ha with ha | ha
    · exact (hlooked a ha).1
    · simp only [List.mem_cons, List.not_mem_nil, or_false] at ha
      rcases ha with rfl | rfl | rfl <;> rfl
  rw [← List.append_assoc] at hsplit
  rcases List.append_eq_append_iff.1 hsplit with ⟨between, hfirst, hrest⟩ | ⟨between, rfl, hrest⟩
  · cases between with
    | nil => exact Or.inr ⟨[], by rw [List.append_nil, hfirst, List.append_nil], hrest.symm⟩
    | cons b between =>
      obtain ⟨rfl, -⟩ := List.cons.inj hrest
      refine Or.inl (hreads ?_)
      rw [hfirst]
      exact List.mem_append_right _ List.mem_cons_self
  · exact Or.inr ⟨between, List.append_assoc _ _ _, hrest⟩

/-- The calls of the stage that closes the old workers: it looks, or it closes one of them behind
its gate. -/
theorem call_of_cordonOld {q : Program (Outcome WorkersStage)} {a : Asked}
    (path : Path .any (stage x s .cordonOldWorkers) () (before ++ a :: after) q ()) :
    a.call.reads = true ∨
      ∃ S L N, Surveyed x S L N before ∧
      (workersOf x S L N).old.length ≤ (workersOf x S L N).new.length ∧
        ∃ w ∈ (workersOf x S L N).old, w.node.unschedulable = false ∧ a.call = cordonOf x w := by
  obtain ⟨_, hown, -⟩ := path_keeping path
  rw [cordonOld_eq] at hown
  rcases path_behindSurvey hown with ⟨hunseen, -⟩ |
    ⟨looked, S, L, N, more, -, hunseen, hsplit, hmore⟩
  · exact Or.inl (hunseen a (by simp)).1
  rcases reads_or_behind hunseen hsplit with hreads | ⟨between, rfl, rfl⟩
  · exact Or.inl hreads
  · rcases path_close hmore with ⟨-, hnone, -⟩ | ⟨henough, hclosed, -⟩
    · exact absurd hnone (by simp)
    · exact Or.inr ⟨S, L, N, surveyed_of_split rfl (List.prefix_refl _), henough,
        hclosed a (by simp)⟩

/-- The calls of the stage that waits for the new workers: it looks. -/
theorem reads_of_awaitReady {q : Program (Outcome WorkersStage)} {a : Asked}
    (path : Path .any (stage x s .waitForWorkersToBecomeReady) () (before ++ a :: after) q ()) :
    a.call.reads = true := by
  obtain ⟨_, hown, -⟩ := path_keeping path
  rw [awaitReady_eq] at hown
  rcases path_behindSurvey hown with ⟨hunseen, -⟩ |
    ⟨looked, S, L, N, more, -, hunseen, hsplit, hmore⟩
  · exact (hunseen a (by simp)).1
  rcases reads_or_behind hunseen hsplit with hreads | ⟨between, -, rfl⟩
  · exact hreads
  · exact absurd (path_await hmore).1 (by simp)

/-- The calls of the stage that doubles the scale set: it looks, or asks for more than it was told,
or waits. -/
theorem call_of_scaleUp {q : Program (Outcome WorkersStage)} {a : Asked}
    (path : Path .any (stage x s .scaleUp) () (before ++ a :: after) q ()) :
    a.call.reads = true ∨ (∃ operation, a.call = cloudCall x (.wait operation)) ∨
      ∃ S desired, ⟨cloudCall x (.getScaleSet x.scaleSet), .ok S⟩ ∈ before ∧ S.capacity < desired ∧
        a.call = growthOf x S desired := by
  rcases path_scaleUp path with ⟨hunseen, -⟩ | ⟨looked, S, L, N, more, -, hunseen, hsplit, hmore⟩
  · exact Or.inl (hunseen a (by simp)).1
  rcases reads_or_behind hunseen hsplit with hreads | ⟨between, rfl, rfl⟩
  · exact Or.inl hreads
  · rcases path_grow hmore with ⟨hfew, hgrowing⟩ | ⟨-, hnone, -⟩
    · rcases hgrowing.calls a (by simp) with hcall | hwait
      · exact Or.inr (Or.inr ⟨S, _, by simp, hfew, hcall⟩)
      · exact Or.inr (Or.inl hwait)
    · exact absurd hnone (by simp)

/-- Only old workers are closed, behind the gate of their stage. -/
theorem cordons_of_pass {q : Program Nat} {a : Asked} {space clusterId name : String}
    (path : Path .any (ensure x now) () trace q ()) (hstage : stageOf x = .cordonOldWorkers)
    (htrace : trace = before ++ a :: after)
    (hcall : a.call = .tenant space clusterId (.cordonNode name)) :
    ∃ S L N, Surveyed x S L N before ∧
    (workersOf x S L N).old.length ≤ (workersOf x S L N).new.length ∧
      ∃ w ∈ (workersOf x S L N).old, w.node.unschedulable = false ∧ a.call = cordonOf x w := by
  rcases call_of_pass path htrace with ⟨own, rest, hown⟩ | ⟨values, hsave⟩
  · rw [hstage] at hown
    rcases call_of_cordonOld hown with hreads | hclosed
    · rw [hcall] at hreads
      cases hreads
    · exact hclosed
  · rw [hcall] at hsave
    cases hsave

/-- The stage of a part of the replacement that leaves the map is left by its own outcome. -/
theorem transition_of_keeps {p : Program (Transition WorkersStage)} {q : Program Nat}
    {source : WorkersStage}
    (path : Path .any (ensure x now) () trace q ()) (hstage : stageOf x = source)
    (hwork : stage x (stateOf x.pool) source = keeping (stateOf x.pool) p)
    (h : Keeps trace target) :
    ∃ own t, Path .any p () own (done (.ok t)) () ∧ t.stage = target ∧ own <+: trace := by
  obtain ⟨own, o, hown, htarget, hprefix⟩ := outcome_of_keeps path h
  rw [hstage, hwork] at hown
  obtain ⟨rest, hrest, hend⟩ := path_keeping hown
  rw [hend o rfl] at hrest
  exact ⟨own, o.transition, hrest, htarget, hprefix⟩

/-- The closing is left when all old workers are closed. -/
theorem closed_of_keeps {q : Program Nat} (path : Path .any (ensure x now) () trace q ())
    (hstage : stageOf x = .cordonOldWorkers) (h : Keeps trace .waitForWorkersToBecomeReady) :
    Closed x trace := by
  obtain ⟨own, t, hown, htarget, hprefix⟩ := transition_of_keeps path hstage rfl h
  rw [cordonOld_eq] at hown
  rcases path_behindSurvey hown with ⟨-, hstay⟩ | ⟨looked, S, L, N, after, -, -, hsplit, hafter⟩
  · rw [hstay t rfl] at htarget
    cases htarget
  rcases path_close hafter with ⟨-, -, hstay⟩ | ⟨henough, -, hcordoned⟩
  · cases hstay
    cases htarget
  · have hlate : after ⊆ trace := by
      refine List.Subset.trans ?_ hprefix.subset
      rw [hsplit, ← List.append_assoc]
      exact List.subset_append_right _ _
    exact ⟨S, L, N, surveyed_of_split hsplit hprefix, henough, fun w hw =>
      (hcordoned t rfl w hw).mono hlate⟩

/-- The waiting only looks. -/
theorem looks_of_pass {q : Program Nat} (path : Path .any (ensure x now) () trace q ())
    (hstage : stageOf x = .waitForWorkersToBecomeReady) {a : Asked} (ha : a ∈ trace) :
    a.call.reads = true ∨ ∃ values, a.call = .saveStatus (StatusTarget.ofPool x.pool) handler
      values := by
  obtain ⟨before, after, htrace⟩ := List.append_of_mem ha
  rcases call_of_pass path htrace with ⟨own, rest, hown⟩ | hsave
  · rw [hstage] at hown
    exact Or.inl (reads_of_awaitReady hown)
  · exact Or.inr hsave

/-- The waiting is left behind its gate. -/
theorem replaced_of_keeps {q : Program Nat} (path : Path .any (ensure x now) () trace q ())
    (hstage : stageOf x = .waitForWorkersToBecomeReady) (h : Keeps trace .scaleDown) :
    Replaced x trace := by
  obtain ⟨own, t, hown, htarget, hprefix⟩ := transition_of_keeps path hstage rfl h
  rw [awaitReady_eq] at hown
  rcases path_behindSurvey hown with ⟨-, hstay⟩ | ⟨looked, S, L, N, after, -, -, hsplit, hafter⟩
  · rw [hstay t rfl] at htarget
    cases htarget
  obtain ⟨rfl, hstay | hready⟩ := path_await hafter
  · cases hstay
    cases htarget
  · exact ⟨S, L, N, surveyed_of_split hsplit hprefix, hready⟩

/-- Before the removal nothing is removed, and the scale set only grows. -/
theorem spares_of_pass {q : Program Nat} {a : Asked} (path : Path .any (ensure x now) () trace q ())
    (hstage : stageOf x ≠ .scaleDown) (htrace : trace = before ++ a :: after) :
    Spares x before a.call := by
  rcases call_of_pass path htrace with ⟨own, rest, hown⟩ | ⟨values, hsave⟩
  · have haside : (stageOf x).phase ≠ .settled ∨ stageOf x = .deploymentCompleted →
        Spares x before a.call := by
      intro hsource
      obtain ⟨-, hremoves, hrescales⟩ :=
        (aside_stage hsource).of_issues (hown.issues_of_append before own)
      exact spares_of_not hremoves hrescales
    cases hsource : stageOf x with
    | scaleUp =>
      rw [hsource] at hown
      rcases call_of_scaleUp hown with hreads | ⟨operation, hcall⟩ | ⟨S, desired, hS, hmore, hcall⟩
      · exact spares_of_reads hreads
      · rw [hcall]
        exact spares_of_not rfl rfl
      · rw [hcall]
        refine ⟨rfl, fun account group name value heq => ⟨S, hS, ?_⟩⟩
        cases heq
        exact hmore
    | cordonOldWorkers =>
      rw [hsource] at hown
      rcases call_of_cordonOld hown with hreads | ⟨S, L, N, -, -, w, -, -, hcall⟩
      · exact spares_of_reads hreads
      · rw [hcall]
        exact spares_of_not rfl rfl
    | waitForWorkersToBecomeReady =>
      rw [hsource] at hown
      exact spares_of_reads (reads_of_awaitReady hown)
    | scaleDown => exact absurd hsource hstage
    | empty => exact haside (by rw [hsource]; decide)
    | deploymentUninitialized => exact haside (by rw [hsource]; decide)
    | deploymentInitialized => exact haside (by rw [hsource]; decide)
    | deploymentCompleted => exact haside (Or.inr hsource)
  · rw [hsave]
    exact spares_of_not rfl rfl

/-- Every pass keeps to the gates, whatever it is answered. -/
theorem gated_of_pass {q : Program Nat} (path : Path .any (ensure x now) () trace q ()) :
    Gated x trace q where
  once := (looksOnce_of_pass path).unique
  grown hstage h := grown_of_keeps path hstage h
  doubles hstage _ _ _ hsurveyed hfew _ hq := doubles_of_pass (hq ▸ path) hstage hsurveyed hfew
  cordons hstage _ _ _ _ _ _ htrace hcall := cordons_of_pass path hstage htrace hcall
  closed hstage h := closed_of_keeps path hstage h
  looks hstage _ ha := looks_of_pass path hstage ha
  replaced hstage h := replaced_of_keeps path hstage h
  spares hstage _ _ _ htrace := spares_of_pass path hstage htrace

end Workers

end TenantFleet
