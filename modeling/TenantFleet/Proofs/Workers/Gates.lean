/-
# The gates of the stages that replace the workers

A stage of the replacement goes on only when its pass has seen what the next stage relies on. Every
look at the workers is one survey of the scale set, its instances and the nodes, and a pass makes no
other.

* `surveyOf` : the calls of a survey, with their answers;
* `path_behindSurvey` : the moments of a program that looks at the workers first;
* `Opened`, `path_scaleUp` : what the stage that doubles the scale set sees first;
* `path_grow`, `path_close`, `path_await` : what the three stages do behind their look at the
  workers;
* `LooksOnce` : that a pass is told the workers once.
-/
import Mathlib.Data.List.Basic
import TenantFleet.Proofs.Workers.Capacity
import TenantFleet.Proofs.Workers.Settlement

namespace TenantFleet

open Program

/-- Whether a call only looks. -/
def Call.reads : Call → Bool
  | .cloud _ _ (.getScaleSet _) | .cloud _ _ (.listInstances _) | .cloud _ _ (.instanceView _ _)
  | .cloud _ _ (.getDeployment _) | .tenant _ _ (.listNodes _) | .getCluster _ _ |
    .openTenant _ _ => true
  | _ => false

namespace Workers

variable {x : Scope} {s : HandlerState} {S : ScaleSet} {L : List Instance} {N : List Node}
  {trace before after : List Asked} {call : Call} {α : Type} {tenant : Tenant}

/-! ## The calls about a pool -/

/-- A request about the scale set of a pool. -/
abbrev cloudCall (x : Scope) (k : CloudCall) : Call := .cloud x.account x.clusterId k

/-- The listing of the nodes of a pool. -/
abbrev nodesCall (x : Scope) : Call :=
  .tenant x.space x.clusterId (.listNodes (some (Name.poolSelector x.poolName)))

/-- The calls of a survey, with their answers. -/
abbrev surveyOf (x : Scope) (S : ScaleSet) (L : List Instance) (N : List Node) : List Asked :=
  [⟨cloudCall x (.getScaleSet x.scaleSet), .ok S⟩, ⟨cloudCall x (.listInstances x.scaleSet), .ok L⟩,
    ⟨nodesCall x, .ok N⟩]

/-- Whether a pass has only looked so far, and was not told the nodes. -/
def Unseen (x : Scope) (trace : List Asked) : Prop :=
  ∀ a ∈ trace, a.call.reads = true ∧ ∀ N, a ≠ ⟨nodesCall x, .ok N⟩

/-- Looking for other things than the nodes does not tell them. -/
theorem unseen_of_asks {p q : Program α}
    (hp : Asks (fun call => call.reads = true ∧ call ≠ nodesCall x) p)
    (path : Path .any p () trace q ()) : Unseen x trace := by
  intro a ha
  obtain ⟨before, after, rfl⟩ := List.append_of_mem ha
  obtain ⟨hreads, hnodes⟩ := hp.of_issues (path.issues_of_append before after)
  exact ⟨hreads, fun N heq => hnodes (congrArg Asked.call heq)⟩

theorem Unseen.nil : Unseen x [] := fun _ h => by cases h

theorem Unseen.append (h : Unseen x before) (h' : Unseen x after) : Unseen x (before ++ after) := by
  intro a ha
  rcases List.mem_append.1 ha with ha | ha
  · exact h a ha
  · exact h' a ha

/-! ## Looking at the workers -/

/-- What a pass does behind a look at the workers; without a tenant it ends as it is told. -/
def behindSurvey (x : Scope) (stay : α)
    (rest : Tenant → ScaleSet × Partition → Program α) : Program α :=
  (usableTenant? x).bind fun
    | none => done (.ok stay)
    | some tenant => (survey x tenant).bind (rest tenant)

/-- Whether a pass saw the cluster there to stay, and reached its tenant. -/
def SawTenant (x : Scope) (trace : List Asked) : Prop :=
  (∃ cluster, ⟨.getCluster x.space x.clusterId, .ok (some cluster)⟩ ∈ trace ∧
    cluster.metadata.deleting = false) ∧ ⟨.openTenant x.space x.clusterId, .ok true⟩ ∈ trace

theorem SawTenant.mono (h : SawTenant x trace) (hsub : trace ⊆ after) : SawTenant x after := by
  obtain ⟨⟨cluster, hcluster, hdeleting⟩, hopen⟩ := h
  exact ⟨⟨cluster, hsub hcluster, hdeleting⟩, hsub hopen⟩

/-- The tenant that a pass may use is that of the cluster, which it saw there to stay. -/
theorem yields_usableTenant (h : Yields (usableTenant? x) trace (some tenant)) :
    tenant = ⟨x.space, x.clusterId⟩ ∧ SawTenant x trace := by
  obtain ⟨found, _, after, rfl, hfound, hrest⟩ := yields_bind.1 h
  cases yields_call.1 hfound
  cases found with
  | none => cases (yields_done.1 hrest).2
  | some cluster =>
    dsimp only at hrest
    split at hrest
    · cases (yields_done.1 hrest).2
    · rename_i hdeleting
      obtain ⟨reachable, _, _, rfl, hopen, hend⟩ := yields_bind.1 hrest
      cases yields_call.1 hopen
      cases reachable with
      | false => cases (yields_done.1 hend).2
      | true =>
        obtain ⟨rfl, heq⟩ := yields_done.1 hend
        cases heq
        exact ⟨rfl, ⟨cluster, by simp, Bool.eq_false_iff.2 hdeleting⟩, by simp⟩

theorem asks_usableTenant (x : Scope) :
    Asks (fun call => call.reads = true ∧ call ≠ nodesCall x) (usableTenant? x) := by
  refine .bind (.call ⟨rfl, nofun⟩) fun cluster => ?_
  cases cluster with
  | none => trivial
  | some cluster =>
    dsimp only
    split
    · trivial
    · exact .bind (.call ⟨rfl, nofun⟩) fun _ => trivial

/-- The moments of a survey: it is not over yet, or has found what was answered. -/
theorem path_survey_cases {rest : ScaleSet × Partition → Program α} {q : Program α}
    (path : Path .any ((survey x ⟨x.space, x.clusterId⟩).bind rest) () trace q ()) :
    (Unseen x trace ∧ ∀ a, q ≠ done (.ok a)) ∨
      ∃ S L N after, trace = surveyOf x S L N ++ after ∧
        Path .any (rest (S, workersOf x S L N)) () after q () := by
  have hlooking : ∀ {k : CloudCall} {r}, (cloudCall x k).reads = true →
      Unseen x [⟨cloudCall x k, r⟩] := by
    intro k r hk a ha
    cases List.mem_singleton.1 ha
    exact ⟨hk, nofun⟩
  have hsplit : (survey x ⟨x.space, x.clusterId⟩).bind rest =
      (Program.call (cloudCall x (.getScaleSet x.scaleSet))).bind fun S =>
        (Program.call (cloudCall x (.listInstances x.scaleSet))).bind fun L =>
          (Program.call (nodesCall x)).bind fun N => rest (S, workersOf x S L N) := by
    unfold survey Tenant.nodes ResourceGroup.call
    simp only [bind_eq, pure_eq, bind_assoc]
    rfl
  rw [hsplit] at path
  rcases path.call_cases with ⟨rfl, hend⟩ | ⟨e, rfl, rfl⟩ | ⟨S, _, _, rfl, path₁⟩
  · exact Or.inl ⟨.nil, fun a => hend (.ok a)⟩
  · exact Or.inl ⟨hlooking rfl, fun _ h => by cases h⟩
  rcases path₁.call_cases with ⟨rfl, hend⟩ | ⟨e, rfl, rfl⟩ | ⟨L, _, _, rfl, path₂⟩
  · exact Or.inl ⟨hlooking rfl, fun a => hend (.ok a)⟩
  · exact Or.inl ⟨(hlooking rfl).append (hlooking rfl), fun _ h => by cases h⟩
  rcases path₂.call_cases with ⟨rfl, hend⟩ | ⟨e, rfl, rfl⟩ | ⟨N, _, after, rfl, path₃⟩
  · exact Or.inl ⟨(hlooking rfl).append (hlooking rfl), fun a => hend (.ok a)⟩
  · have hfailed : Unseen x [⟨nodesCall x, .error e⟩] := by
      intro a ha
      cases List.mem_singleton.1 ha
      exact ⟨rfl, fun N h => by cases h⟩
    exact Or.inl ⟨((hlooking rfl).append (hlooking rfl)).append hfailed, fun _ h => by cases h⟩
  · exact Or.inr ⟨S, L, N, after, rfl, path₃⟩

/-- The moments of a program that looks at the workers first: it has only looked so far, and then it
may have ended for want of a tenant; or it has found what was answered, with the tenant of the
cluster. -/
theorem path_behindSurvey {stay : α} {rest : Tenant → ScaleSet × Partition → Program α}
    {q : Program α} (path : Path .any (behindSurvey x stay rest) () trace q ()) :
    (Unseen x trace ∧ ∀ a, q = done (.ok a) → a = stay) ∨
      ∃ looked S L N after, SawTenant x looked ∧ Unseen x looked ∧
        trace = looked ++ (surveyOf x S L N ++ after) ∧
        Path .any (rest ⟨x.space, x.clusterId⟩ (S, workersOf x S L N)) () after q () := by
  rcases path.bind_split with ⟨looking, hlooking, hend⟩ |
    ⟨found, _, looked, after, rfl, hlooked, hrest⟩
  · exact Or.inl ⟨unseen_of_asks (asks_usableTenant x) hlooking, fun a ha => absurd ha (hend a)⟩
  · have hunseen := unseen_of_asks (asks_usableTenant x) hlooked
    cases found with
    | none =>
      cases hrest
      rw [List.append_nil]
      refine Or.inl ⟨hunseen, fun a ha => ?_⟩
      cases ha
      rfl
    | some tenant =>
      obtain ⟨rfl, htenant⟩ := yields_usableTenant hlooked
      rcases path_survey_cases hrest with ⟨hmore, hend⟩ | ⟨S, L, N, more, rfl, hfound⟩
      · exact Or.inl ⟨hunseen.append hmore, fun a ha => absurd ha (hend a)⟩
      · exact Or.inr ⟨looked, S, L, N, more, htenant, hunseen, rfl, hfound⟩

/-- What was found lies where the nodes were told: there is no second look at them. -/
theorem survey_unique {S' : ScaleSet} {L' : List Instance} {N' : List Node}
    {looked looked' after' : List Asked}
    (hlooked : Unseen x looked) (hafter : ∀ a ∈ after, a.call ≠ nodesCall x)
    (h : looked ++ (surveyOf x S L N ++ after) = looked' ++ (surveyOf x S' L' N' ++ after')) :
    S' = S ∧ L' = L ∧ N' = N := by
  have hsplit : (looked ++ [⟨cloudCall x (.getScaleSet x.scaleSet), .ok S⟩,
      ⟨cloudCall x (.listInstances x.scaleSet), .ok L⟩]) ++ ⟨nodesCall x, .ok N⟩ :: after =
      (looked' ++ [⟨cloudCall x (.getScaleSet x.scaleSet), .ok S'⟩,
        ⟨cloudCall x (.listInstances x.scaleSet), .ok L'⟩]) ++ ⟨nodesCall x, .ok N'⟩ :: after' := by
    simpa using h
  have hearlier : (⟨nodesCall x, .ok N'⟩ : Asked) ∉ looked ++
      [⟨cloudCall x (.getScaleSet x.scaleSet), .ok S⟩,
      ⟨cloudCall x (.listInstances x.scaleSet), .ok L⟩] := by
    intro hmem
    rcases List.mem_append.1 hmem with hmem | hmem
    · exact (hlooked _ hmem).2 N' rfl
    · simp at hmem
  have hlater : (⟨nodesCall x, .ok N'⟩ : Asked) ∉ after := fun hmem => hafter _ hmem rfl
  obtain ⟨hfound, htold, -⟩ := (List.append_cons_inj_of_notMem hearlier hlater).1 hsplit
  obtain ⟨-, hlast⟩ := List.append_inj' hfound rfl
  cases hlast
  cases htold
  exact ⟨rfl, rfl, rfl⟩

/-! ## Doubling the scale set -/

/-- Whether a pass saw that everything deployed is there: the pool is there to stay, all instances
run, the deployment has succeeded, and the tenant was reached. -/
structure Opened (x : Scope) (trace : List Asked) : Prop where
  pool : x.machinePool.metadata.deleting = false
  instances : ∃ l, ⟨cloudCall x (.listInstances x.scaleSet), .ok l⟩ ∈ trace ∧
    ∀ v ∈ l, v.succeeded = true ∧
    ∃ view, ⟨cloudCall x (.instanceView x.scaleSet v.instanceId), .ok view⟩ ∈ trace ∧
    view.running = true
  deployment : ∃ d, ⟨cloudCall x (.getDeployment x.scaleSet), .ok d⟩ ∈ trace ∧ d.succeeded = true
  tenant : SawTenant x trace

theorem Opened.mono (h : Opened x trace) (hsub : trace ⊆ after) : Opened x after where
  pool := h.pool
  instances := by
    obtain ⟨l, hl, hall⟩ := h.instances
    refine ⟨l, hsub hl, fun v hv => ?_⟩
    obtain ⟨hsucceeded, view, hview, hrunning⟩ := hall v hv
    exact ⟨hsucceeded, view, hsub hview, hrunning⟩
  deployment := by
    obtain ⟨d, hd, hsucceeded⟩ := h.deployment
    exact ⟨d, hsub hd, hsucceeded⟩
  tenant := h.tenant.mono hsub

/-- All instances of a list are seen running. -/
theorem yields_allRunning {l : List Instance} (h : Yields (allRunning x l) trace true) :
    ∀ v ∈ l, v.succeeded = true ∧
      ∃ view, ⟨cloudCall x (.instanceView x.scaleSet v.instanceId), .ok view⟩ ∈ trace ∧
      view.running = true := by
  induction l generalizing trace with
  | nil => exact fun v hv => by cases hv
  | cons v rest ih =>
    unfold allRunning at h
    split at h
    · rename_i hsucceeded
      obtain ⟨view, _, after, rfl, hview, hrest⟩ := yields_bind.1 h
      cases yields_groupCall.1 hview
      split at hrest
      · rename_i hrunning
        intro v' hv'
        rcases List.mem_cons.1 hv' with rfl | hv'
        · exact ⟨hsucceeded, view, List.mem_cons_self, hrunning⟩
        · obtain ⟨hsucceeded', view', hmem, hrunning'⟩ := ih hrest v' hv'
          exact ⟨hsucceeded', view', List.mem_append_right _ hmem, hrunning'⟩
      · cases (yields_done.1 hrest).2
    · cases (yields_done.1 h).2

theorem asks_allRunning (x : Scope) (l : List Instance) :
    Asks (fun call => call.reads = true ∧ call ≠ nodesCall x) (allRunning x l) := by
  induction l with
  | nil => trivial
  | cons v rest ih =>
    unfold allRunning
    split
    · refine .bind (.groupCall ⟨rfl, fun h => by cases h⟩) fun view => ?_
      split
      · exact ih
      · trivial
    · trivial

theorem asks_observeDeployment (x : Scope) :
    Asks (fun call => call.reads = true ∧ call ≠ nodesCall x)
    (observeDeployment x.group x.scaleSet) := by
  refine .bind (.find? ⟨rfl, nofun⟩) fun found => ?_
  cases found <;> trivial

/-- A deployment that is observed to have succeeded was seen so. -/
theorem saw_of_observe (h : Yields (observeDeployment x.group x.scaleSet) trace .succeeded) :
    ∃ d, ⟨cloudCall x (.getDeployment x.scaleSet), .ok d⟩ ∈ trace ∧ d.succeeded = true := by
  obtain ⟨found, _, after, rfl, hfound, hend⟩ := yields_bind.1 h
  rcases yields_find?.1 hfound with ⟨d, rfl, rfl⟩ | ⟨e, -, rfl, rfl⟩
  · refine ⟨d, List.mem_cons_self, ?_⟩
    have hobserve : d.observe = .succeeded := Except.ok.inj (yields_done.1 hend).2
    unfold Deployment.observe at hobserve
    split at hobserve
    · assumption
    · split at hobserve <;> cases hobserve
  · cases (yields_done.1 hend).2

/-- What the stage does with the workers that it finds. -/
def grow (x : Scope) (s : HandlerState) (found : ScaleSet × Partition) :
    Program (Outcome WorkersStage) :=
  if (found.2.old.length : Int) * 2 > found.1.capacity then
    (rescale x found.1 (found.2.old.length * 2) false).bind fun _ => done (.ok ⟨x.stay .scaleUp, s⟩)
  else done (.ok (.advance .cordonOldWorkers s))

/-- What the stage does once all instances run. -/
def growDeployed (x : Scope) (s : HandlerState) (state : DeploymentState) :
    Program (Outcome WorkersStage) :=
  match state with
  | .failed | .missing => done (.ok (.advance .deploymentUninitialized s.clearChecksums))
  | .running => done (.ok ⟨x.stay .scaleUp, s⟩)
  | .succeeded => behindSurvey x ⟨x.stay .scaleUp, s⟩ fun _ => grow x s

/-- What the stage does once the pool is there to stay. -/
def growListed (x : Scope) (s : HandlerState) (running : Bool) : Program (Outcome WorkersStage) :=
  if running then (observeDeployment x.group x.scaleSet).bind (growDeployed x s)
  else done (.ok ⟨x.stay .scaleUp, s⟩)

/-- The stage looks at the pool, its instances, and its deployment, before it looks at the
workers. -/
theorem scaleUp_eq (x : Scope) (s : HandlerState) :
    Workers.scaleUp x s =
      if x.machinePool.metadata.deleting then done (.ok ⟨x.stay .scaleUp, s⟩)
      else (Program.call (cloudCall x (.listInstances x.scaleSet))).bind fun l =>
        (allRunning x l).bind (growListed x s) := by
  unfold Workers.scaleUp
  dsimp only
  split
  · rfl
  · refine congrArg (Program.bind _)
      (funext fun l => congrArg (Program.bind _) (funext fun running => ?_))
    cases running with
    | false => rfl
    | true => exact congrArg (Program.bind _) (funext fun state => by cases state <;> rfl)

/-- Whether a program of the stage has not gone on. -/
def Stays (q : Program (Outcome WorkersStage)) : Prop :=
  ∀ o, q = done (.ok o) → o.transition.stage ≠ .cordonOldWorkers

variable {q : Program (Outcome WorkersStage)}

/-- An outcome that stays. -/
theorem stays_done {o : Outcome WorkersStage} (h : o.transition.stage ≠ .cordonOldWorkers) :
    Stays (done (.ok o)) := by
  intro o' ho'
  cases ho'
  exact h

/-- With a deployment that has succeeded the stage looks at the workers. -/
theorem path_growDeployed {state : DeploymentState}
    (path : Path .any (growDeployed x s state) () trace q ()) : (Unseen x trace ∧ Stays q) ∨
      ∃ looked S L N after, state = .succeeded ∧ SawTenant x looked ∧ Unseen x looked ∧
        trace = looked ++ (surveyOf x S L N ++ after) ∧
        Path .any (grow x s (S, workersOf x S L N)) () after q () := by
  cases state with
  | failed =>
    cases path
    exact Or.inl ⟨.nil, stays_done nofun⟩
  | missing =>
    cases path
    exact Or.inl ⟨.nil, stays_done nofun⟩
  | running =>
    cases path
    exact Or.inl ⟨.nil, stays_done nofun⟩
  | succeeded =>
    rcases path_behindSurvey path with ⟨hunseen, hend⟩ |
      ⟨looked, S, L, N, after, htenant, hunseen, htrace, hfound⟩
    · refine Or.inl ⟨hunseen, fun o ho => ?_⟩
      rw [hend o ho]
      exact nofun
    · exact Or.inr ⟨looked, S, L, N, after, rfl, htenant, hunseen, htrace, hfound⟩

/-- With all instances running the stage looks at the deployment. -/
theorem path_growListed {running : Bool} (path : Path .any (growListed x s running) () trace q ()) :
    (Unseen x trace ∧ Stays q) ∨
      ∃ looked S L N after, running = true ∧
        (∃ d, ⟨cloudCall x (.getDeployment x.scaleSet), .ok d⟩ ∈ looked ∧ d.succeeded = true) ∧
        SawTenant x looked ∧ Unseen x looked ∧ trace = looked ++ (surveyOf x S L N ++ after) ∧
        Path .any (grow x s (S, workersOf x S L N)) () after q () := by
  cases running with
  | false =>
    cases path
    exact Or.inl ⟨.nil, stays_done nofun⟩
  | true =>
    rcases path.bind_split with ⟨rest, hrest, hend⟩ |
      ⟨state, _, observed, after, rfl, hobserved, hdeployed⟩
    · exact Or.inl ⟨unseen_of_asks (asks_observeDeployment x) hrest, fun o ho => absurd ho (hend o)⟩
    have hunseen := unseen_of_asks (asks_observeDeployment x) hobserved
    rcases path_growDeployed hdeployed with ⟨hmore, hstays⟩ |
      ⟨looked, S, L, N, more, rfl, htenant, hmore, rfl, hfound⟩
    · exact Or.inl ⟨hunseen.append hmore, hstays⟩
    · obtain ⟨d, hd, hsucceeded⟩ := saw_of_observe hobserved
      exact Or.inr ⟨observed ++ looked, S, L, N, more, rfl,
        ⟨d, List.mem_append_left _ hd, hsucceeded⟩,
        htenant.mono (List.subset_append_right _ _), hunseen.append hmore,
          (List.append_assoc _ _ _).symm, hfound⟩

/-- The moments of the stage: it has only looked so far, and has not gone on; or it has seen that
everything deployed is there, and found the workers. -/
theorem path_scaleUp (path : Path .any (Workers.scaleUp x s) () trace q ()) :
    (Unseen x trace ∧ Stays q) ∨
      ∃ looked S L N after, Opened x looked ∧ Unseen x looked ∧
      trace = looked ++ (surveyOf x S L N ++ after) ∧
        Path .any (grow x s (S, workersOf x S L N)) () after q () := by
  rw [scaleUp_eq] at path
  by_cases hdeleting : x.machinePool.metadata.deleting = true
  · rw [if_pos hdeleting] at path
    cases path
    exact Or.inl ⟨.nil, stays_done nofun⟩
  rw [if_neg hdeleting] at path
  have hlisted : ∀ r, Unseen x [⟨cloudCall x (.listInstances x.scaleSet), r⟩] := by
    intro r a ha
    cases List.mem_singleton.1 ha
    exact ⟨rfl, nofun⟩
  rcases path.call_cases with ⟨rfl, hend⟩ | ⟨e, rfl, rfl⟩ | ⟨l, _, _, rfl, path₁⟩
  · exact Or.inl ⟨.nil, fun o ho => absurd ho (hend (.ok o))⟩
  · exact Or.inl ⟨hlisted _, fun o ho => by cases ho⟩
  rcases path₁.bind_split with ⟨rest, hrest, hend⟩ | ⟨running, _, viewed, _, rfl, hviewed, path₂⟩
  · exact Or.inl ⟨(hlisted (.ok l)).append (unseen_of_asks (asks_allRunning x l) hrest),
      fun o ho => absurd ho (hend o)⟩
  have hviews := (hlisted (.ok l)).append (unseen_of_asks (asks_allRunning x l) hviewed)
  rcases path_growListed path₂ with ⟨hmore, hstays⟩ |
    ⟨looked, S, L, N, after, rfl, ⟨d, hd, hsucceeded⟩, htenant, hmore, rfl, hfound⟩
  · exact Or.inl ⟨hviews.append hmore, hstays⟩
  · refine Or.inr ⟨([⟨cloudCall x (.listInstances x.scaleSet), .ok l⟩] ++ viewed) ++ looked, S, L,
      N, after, ?_, hviews.append hmore, by simp, hfound⟩
    refine ⟨Bool.eq_false_iff.2 hdeleting, ⟨l, by simp, fun v hv => ?_⟩,
      ⟨d, by simp [hd], hsucceeded⟩, htenant.mono (List.subset_append_right _ _)⟩
    obtain ⟨hready, view, hview, hrunning⟩ := yields_allRunning hviewed v hv
    exact ⟨hready, view, by simp [hview], hrunning⟩

/-! ## Changing the capacity -/

/-- Whether a scale set is another one but for the capacity and the tag of the autoscaler. -/
structure OnlyResized (S S' : ScaleSet) (desired : Int) (tag : String) : Prop where
  capacity : S'.capacity = desired
  tag : S'.tags.get? Tag.autoscalerEnabled = some tag
  tags : ∀ key, key ≠ Tag.autoscalerEnabled → S'.tags.get? key = S.tags.get? key
  size : S'.sku = some { S.sku.getD {} with capacity := some desired }
  rest : S' = { S with sku := S'.sku, tags := S'.tags }

/-- Changing the capacity changes nothing else. -/
theorem onlyResized_resize (S : ScaleSet) (desired : Int) (autoscaler : Bool) :
    OnlyResized S (resize S desired autoscaler) desired
      (if autoscaler then "true" else "false") where
  capacity := rfl
  tag := Dict.get?_insert_self _ _ _
  tags _ hkey := Dict.get?_insert_of_ne _ _ (Ne.symm hkey)
  size := rfl
  rest := rfl

/-- The request for a number of workers, which closes the scale set for the autoscaler. -/
abbrev growthOf (x : Scope) (S : ScaleSet) (desired : Int) : Call :=
  cloudCall x (.putScaleSet x.scaleSet (resize S desired false))

/-- The moments of a pass that doubles the scale set: its calls, and what is left of the stage. -/
inductive Growing (x : Scope) (s : HandlerState) (S : ScaleSet) (desired : Int) :
    List Asked → Program (Outcome WorkersStage) → Prop
  | starts {q : Program (Outcome WorkersStage)} (hq : ∀ r, q ≠ done r) : Growing x s S desired [] q
  | refused (e : AzureError) :
    Growing x s S desired [⟨growthOf x S desired, .error e⟩] (done (.error (.azure e)))
  | requested (operation : Operation) {q : Program (Outcome WorkersStage)} (hq : ∀ r, q ≠ done r) :
    Growing x s S desired [⟨growthOf x S desired, .ok operation⟩] q
  | lost (operation : Operation) (e : AzureError) :
    Growing x s S desired [⟨growthOf x S desired, .ok operation⟩,
      ⟨cloudCall x (.wait operation), .error e⟩]
      (done (.error (.azure e)))
  | grown (operation : Operation) :
    Growing x s S desired [⟨growthOf x S desired, .ok operation⟩,
      ⟨cloudCall x (.wait operation), .ok ()⟩]
      (done (.ok ⟨x.stay .scaleUp, s⟩))

/-- The moments behind the look at the workers: with too few instances the scale set is doubled, and
the stage stays; else it goes on at once. -/
theorem path_grow {P : Partition} (path : Path .any (grow x s (S, P)) () trace q ()) :
    (S.capacity < P.old.length * 2 ∧ Growing x s S (P.old.length * 2) trace q) ∨
      (P.old.length * 2 ≤ S.capacity ∧ trace = [] ∧
        q = done (.ok (.advance .cordonOldWorkers s))) := by
  unfold grow at path
  dsimp only at path
  split at path
  · rename_i hmore
    have hsplit : ((rescale x S (P.old.length * 2) false).bind fun _ =>
        (done (.ok ⟨x.stay .scaleUp, s⟩) : Program (Outcome WorkersStage))) =
        (Program.call (growthOf x S (P.old.length * 2))).bind fun operation =>
          (Program.call (cloudCall x (.wait operation))).bind fun _ => done
          (.ok ⟨x.stay .scaleUp, s⟩) :=
      bind_assoc _ _ _
    rw [hsplit] at path
    refine Or.inl ⟨hmore, ?_⟩
    rcases path.call_cases with ⟨rfl, hq⟩ | ⟨e, rfl, rfl⟩ | ⟨operation, _, _, rfl, path₁⟩
    · exact .starts hq
    · exact .refused e
    rcases path₁.call_cases with ⟨rfl, hq⟩ | ⟨e, rfl, rfl⟩ | ⟨_, _, _, rfl, path₂⟩
    · exact .requested operation hq
    · exact .lost operation e
    · cases path₂
      exact .grown operation
  · rename_i henough
    cases path
    exact Or.inr ⟨Int.not_lt.1 henough, rfl, rfl⟩

/-- Nothing but the update and the wait for it is asked then. -/
theorem Growing.calls {desired : Int} (h : Growing x s S desired trace q) : ∀ a ∈ trace,
    a.call = growthOf x S desired ∨ ∃ operation, a.call = cloudCall x (.wait operation) := by
  cases h with
  | starts hq => exact fun a ha => by cases ha
  | refused e => simp
  | requested operation hq => simp
  | lost operation e => simp
  | grown operation => simp

/-! ## Closing the old workers -/

/-- What the stage does that closes the old workers for new work. -/
def close (x : Scope) (tenant : Tenant) (found : ScaleSet × Partition) :
    Program (Transition WorkersStage) :=
  if found.2.new.length < found.2.old.length then done (.ok (x.stay .cordonOldWorkers))
  else (Program.forEach found.2.old (cordonWorker tenant)).bind fun _ =>
    done (.ok (.advance .waitForWorkersToBecomeReady))

theorem cordonOld_eq (x : Scope) :
    cordonOld x = behindSurvey x (x.stay .cordonOldWorkers) (close x) := by
  refine congrArg (Program.bind _) (funext fun found => ?_)
  cases found <;> rfl

/-- The call that closes a worker for new work. -/
abbrev cordonOf (x : Scope) (w : Worker) : Call :=
  .tenant x.space x.clusterId (.cordonNode w.nodeName)

/-- Whether an old worker was closed for new work already, or by a pass, or has gone. -/
def Cordoned (x : Scope) (trace : List Asked) (w : Worker) : Prop :=
  w.node.unschedulable = true ∨ ⟨cordonOf x w, .ok ()⟩ ∈ trace ∨
    ∃ e : TenantError, e.isNotFound = true ∧ ⟨cordonOf x w, .error e⟩ ∈ trace

theorem Cordoned.mono {w : Worker} (h : Cordoned x trace w) (hsub : trace ⊆ after) :
    Cordoned x after w :=
  h.imp_right fun h => h.imp (fun hok => hsub hok) fun ⟨e, he, hmem⟩ => ⟨e, he, hsub hmem⟩

/-- A worker is closed when that is asked and done, or it has gone. -/
theorem yields_cordonWorker {w : Worker}
    (h : Yields (cordonWorker ⟨x.space, x.clusterId⟩ w) trace ()) :
    Cordoned x trace w := by
  unfold cordonWorker at h
  split at h
  · rename_i hclosed
    exact Or.inl hclosed
  · obtain ⟨r, _, rfl, hr⟩ := yields_ask.1 h
    cases r with
    | ok _ => exact Or.inr (Or.inl List.mem_cons_self)
    | error e =>
      unfold Tenant.unlessMissing at hr
      dsimp only at hr
      split at hr
      · rename_i hgone
        exact Or.inr (Or.inr ⟨e, hgone, List.mem_cons_self⟩)
      · cases (yields_done.1 hr).2

theorem asks_cordonWorker (w : Worker) :
    Asks (fun call => w.node.unschedulable = false ∧ call = cordonOf x w)
      (cordonWorker ⟨x.space, x.clusterId⟩ w) := by
  unfold cordonWorker
  split
  · trivial
  · rename_i hopen
    refine ⟨⟨Bool.eq_false_iff.2 hopen, rfl⟩, fun r => ?_⟩
    cases r with
    | ok _ => trivial
    | error e =>
      unfold Tenant.unlessMissing
      dsimp only
      split <;> trivial

/-- The moments behind the look at the workers: with too few new ones the stage stays; else only old
ones that are open are closed, and the stage goes on when all are. -/
theorem path_close {P : Partition} {q : Program (Transition WorkersStage)}
    (path : Path .any (close x ⟨x.space, x.clusterId⟩ (S, P)) () trace q ()) :
    (P.new.length < P.old.length ∧ trace = [] ∧ q = done (.ok (x.stay .cordonOldWorkers))) ∨
      (P.old.length ≤ P.new.length ∧
        (∀ a ∈ trace, ∃ w ∈ P.old, w.node.unschedulable = false ∧ a.call = cordonOf x w) ∧
        ∀ t, q = done (.ok t) → ∀ w ∈ P.old, Cordoned x trace w) := by
  unfold close at path
  dsimp only at path
  split at path
  · rename_i hfew
    cases path
    exact Or.inl ⟨hfew, rfl, rfl⟩
  · rename_i henough
    refine Or.inr ⟨Nat.le_of_not_lt henough, fun a ha => ?_, ?_⟩
    · obtain ⟨before, after, rfl⟩ := List.append_of_mem ha
      rcases issues_bind.1 (path.issues_of_append before after) with hissue | ⟨_, _, _, -, -, hend⟩
      · obtain ⟨w, hw, own, hown⟩ := issues_forEach hissue
        obtain ⟨hopen, hcall⟩ := (asks_cordonWorker w).of_issues hown
        exact ⟨w, hw, hopen, hcall⟩
      · exact absurd hend not_issues_done
    · rintro t rfl w hw
      obtain ⟨_, closed, _, rfl, hclosed, -⟩ := yields_bind.1 path.yields
      obtain ⟨own, hown, hsub⟩ := yields_forEach hclosed hw
      exact (yields_cordonWorker hown).mono (List.subset_append_of_subset_left _ hsub)

/-! ## Waiting for the new workers -/

/-- What the stage does that waits for the new workers. -/
def await (x : Scope) (found : ScaleSet × Partition) : Program (Transition WorkersStage) :=
  if found.2.new.all (fun w => w.node.ready) ∧ found.2.old.length ≤ found.2.new.length then
    done (.ok (.advance .scaleDown))
  else done (.ok (x.stay .waitForWorkersToBecomeReady))

theorem awaitReady_eq (x : Scope) :
    awaitReady x = behindSurvey x (x.stay .waitForWorkersToBecomeReady) fun _ => await x := by
  refine congrArg (Program.bind _) (funext fun found => ?_)
  cases found <;> rfl

/-- Behind the look at the workers the stage goes on only when all new ones are ready, and as many
as the old ones. -/
theorem path_await {P : Partition} {q : Program (Transition WorkersStage)}
    (path : Path .any (await x (S, P)) () trace q ()) :
    trace = [] ∧ ((q = done (.ok (x.stay .waitForWorkersToBecomeReady))) ∨
      ((∀ w ∈ P.new, w.node.ready = true) ∧ P.old.length ≤ P.new.length)) := by
  unfold await at path
  dsimp only at path
  split at path
  · rename_i hready
    cases path
    exact ⟨rfl, Or.inr ⟨List.all_eq_true.1 hready.1, hready.2⟩⟩
  · cases path
    exact ⟨rfl, Or.inl rfl⟩

/-! ## Looking once -/

/-- Whether a pass was told the nodes at most once, by a survey. -/
def LooksOnce (x : Scope) (trace : List Asked) : Prop :=
  (∀ N, (⟨nodesCall x, .ok N⟩ : Asked) ∉ trace) ∨
    ∃ looked S L N after, Unseen x looked ∧ trace = looked ++ (surveyOf x S L N ++ after) ∧
      ∀ a ∈ after, a.call ≠ nodesCall x

/-- A pass that has only looked at other things was told no nodes. -/
theorem Unseen.looksOnce (h : Unseen x trace) : LooksOnce x trace :=
  Or.inl fun N hN => (h _ hN).2 N rfl

/-- Nor was one that asked for other things. -/
theorem looksOnce_of_asks {p q : Program α} (hp : Asks (fun call => call ≠ nodesCall x) p)
    (path : Path .any p () trace q ()) : LooksOnce x trace := by
  refine Or.inl fun N hN => ?_
  obtain ⟨before, after, rfl⟩ := List.append_of_mem hN
  exact hp.of_issues (path.issues_of_append before after) rfl

/-- Other calls behind it change nothing. -/
theorem LooksOnce.append (h : LooksOnce x trace) (hafter : ∀ a ∈ after, a.call ≠ nodesCall x) :
    LooksOnce x (trace ++ after) := by
  rcases h with h | ⟨looked, S, L, N, own, hlooked, rfl, hown⟩
  · refine Or.inl fun N hN => ?_
    rcases List.mem_append.1 hN with hN | hN
    · exact h N hN
    · exact hafter _ hN rfl
  · refine Or.inr ⟨looked, S, L, N, own ++ after, hlooked, by simp, fun a ha => ?_⟩
    rcases List.mem_append.1 ha with ha | ha
    · exact hown a ha
    · exact hafter a ha

/-- What a survey finds was told there. -/
theorem told_of_surveyed (h : Surveyed x S L N trace) : (⟨nodesCall x, .ok N⟩ : Asked) ∈ trace :=
  h.subset (by simp)

/-- So all surveys of such a pass are the same one. -/
theorem LooksOnce.unique {S' : ScaleSet} {L' : List Instance} {N' : List Node}
    (h : LooksOnce x trace)
    (hfirst : Surveyed x S L N trace) (hsecond : Surveyed x S' L' N' trace) : S' = S ∧ L' = L ∧
    N' = N := by
  rcases h with h | ⟨looked, S₀, L₀, N₀, after, hlooked, rfl, hafter⟩
  · exact absurd (told_of_surveyed hfirst) (h N)
  · have hsame : ∀ {S L N}, Surveyed x S L N (looked ++ (surveyOf x S₀ L₀ N₀ ++ after)) →
        S = S₀ ∧ L = L₀ ∧ N = N₀ := by
      rintro S L N ⟨before, rest, h⟩
      rw [List.append_assoc] at h
      exact survey_unique hlooked hafter h.symm
    obtain ⟨rfl, rfl, rfl⟩ := hsame hfirst
    exact hsame hsecond

end Workers

end TenantFleet
