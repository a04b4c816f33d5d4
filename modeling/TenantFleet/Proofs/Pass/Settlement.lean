/-
# Settling on a deployment

A machine settles on a deployment in three phases: it is unsettled until it submits one, has then
submitted it until it observes that the deployment succeeded, and is settled until it drifts or is
done with its workers. Whatever is stored at any time tells how far the run has come: the checksums
in the map are those of a deployment that was submitted, and when the machine is settled, that
deployment succeeded.

* `storing` : surroundings with a store whose writes replace the map of a handler, and in which
  everything may fail;
* `Phase.Holds` : what a stored map stands for;
* `Settling` : what a stage may do about the deployment;
* `settlement_pass` : a pass keeps what its stored maps stand for.
-/
import TenantFleet.World.Basic
import TenantFleet.Proofs.Pass.Moment

namespace TenantFleet

open Program
open scoped List

/-! ## A store -/

/-- The maps of an object, with those that were stored before. -/
structure Stored where
  /-- The maps that are stored. -/
  latest : HandlerMaps
  /-- The maps that were stored before, the last ones first. -/
  earlier : List HandlerMaps := []

namespace Stored

/-- All maps that were stored. -/
def all (stored : Stored) : List HandlerMaps := stored.latest :: stored.earlier

/-- The store after a write. -/
def write (stored : Stored) (s : SavedState) : Stored := ⟨s.applyTo stored.latest, stored.all⟩

end Stored

/-- The surroundings with a store. A write replaces the map of its handler, or fails with or without
doing so; every other call may have every result. -/
def storing : Surroundings Stored where
  answers c stored r stored' :=
    match c with
    | .saveStatus target handler values =>
      stored' = stored.write ⟨target, handler, values⟩ ∨ (stored' = stored ∧ ∃ e, r = .error e)
    | _ => stored' = stored
  note _ stored := stored

/-- A call that leaves what is stored does so in a store. -/
theorem stored_eq_of_answers {c : Call} {stored stored' : Stored} {r : Except c.Failure c.Answer}
    (hc : c.keepsStatus) (turn : storing.answers c stored r stored') : stored' = stored := by
  cases c with
  | saveStatus target handler values => exact hc.elim
  | _ => exact turn

/-- A program that makes no writes leaves what is stored. -/
theorem stored_eq_of_path {α : Type} {p q : Program α} {stored stored' : Stored}
    {trace : List Asked}
    (hp : Asks Call.keepsStatus p) (path : Path storing p stored trace q stored') :
    stored' = stored := by
  refine path.keeps (J := fun _ s => s = stored) rfl (fun _ _ _ h => h) ?_
  intro asked c r s s' hissue hs turn
  rw [stored_eq_of_answers (hp.of_issues hissue) turn]
  exact hs

/-! ## Phases -/

/-- Whether a map has the given checksums. -/
def HandlerState.Knows (s : HandlerState) (template parameters : String) : Prop :=
  s.templateChecksum = some template ∧ s.parametersChecksum = some parameters

section

variable (groups : ResourceGroup → Prop) (name : String)

/-- Whether a deployment with the given checksums was submitted. -/
def Submitted (asked : List Asked) (template parameters : String) : Prop :=
  ∃ (g : ResourceGroup) (t : DeploymentTemplate) (operation : Operation),
    groups g ∧ t.checksums = (template, parameters) ∧
    ⟨.cloud g.account g.name (.putDeployment name t.deployment), .ok operation⟩ ∈ asked

/-- Whether a deployment with the given checksums was submitted, and the deployment of that name was
later observed to have succeeded. -/
def Confirmed (asked : List Asked) (template parameters : String) : Prop :=
  ∃ (g g' : ResourceGroup) (t : DeploymentTemplate) (operation : Operation) (d : Deployment),
    groups g ∧ groups g' ∧ t.checksums = (template, parameters) ∧ d.observe = .succeeded ∧
    [⟨.cloud g.account g.name (.putDeployment name t.deployment), .ok operation⟩,
      ⟨.cloud g'.account g'.name (.getDeployment name), .ok d⟩] <+ asked

/-- How far a machine is with its deployment. -/
inductive Phase
  /-- There may be none. -/
  | unsettled
  /-- It was submitted. -/
  | submitted
  /-- It succeeded. -/
  | settled
  deriving DecidableEq

/-- What a map stands for in a phase: where no deployment has to be known, one that is known
succeeded. -/
def Phase.Holds (asked : List Asked) (s : HandlerState) : Phase → Prop
  | .unsettled => ∀ template parameters, s.Knows template parameters →
    Confirmed groups name asked template parameters
  | .submitted => ∃ template parameters, s.Knows template parameters ∧
    Submitted groups name asked template parameters
  | .settled => ∃ template parameters, s.Knows template parameters ∧
    Confirmed groups name asked template parameters

/-- What a stage may do about the deployment, between two phases: the map that it leaves, and what
it asked. -/
inductive Settling (s : HandlerState) : Phase → Phase → HandlerState → List Asked → Prop
  /-- Nothing is done. -/
  | stays {phase : Phase} {trace : List Asked} : Settling s phase phase s trace
  /-- The deployment is looked at again. -/
  | reopened {trace : List Asked} : Settling s .settled .unsettled s trace
  /-- The deployment is forgotten. -/
  | forgot {phase : Phase} {trace : List Asked} : Settling s phase .unsettled s.clearChecksums trace
  /-- The deployment is the one that was submitted last. -/
  | unchanged {t : DeploymentTemplate} {trace : List Asked} (hdrift : drift s t = none) :
    Settling s .unsettled .settled s trace
  /-- The deployment is submitted. -/
  | submitted {g : ResourceGroup} {t : DeploymentTemplate} {operation : Operation}
    {trace : List Asked} (hg : groups g)
    (hasked : ⟨.cloud g.account g.name (.putDeployment name t.deployment), .ok operation⟩ ∈ trace) :
    Settling s .unsettled .submitted (s.setChecksums t.checksums.1 t.checksums.2) trace
  /-- The deployment has succeeded. -/
  | succeeded {g : ResourceGroup} {d : Deployment} {trace : List Asked} (hg : groups g)
    (hd : d.observe = .succeeded)
    (hasked : ⟨.cloud g.account g.name (.getDeployment name), .ok d⟩ ∈ trace) :
    Settling s .submitted .settled s trace

end

variable {groups : ResourceGroup → Prop} {name : String} {asked trace : List Asked}
  {s s' : HandlerState} {phase phase' : Phase} {template parameters : String}

/-- What was confirmed stays so. -/
theorem Confirmed.append (h : Confirmed groups name asked template parameters)
    (trace : List Asked) :
    Confirmed groups name (asked ++ trace) template parameters := by
  obtain ⟨g, g', t, operation, d, hg, hg', ht, hd, hsub⟩ := h
  exact ⟨g, g', t, operation, d, hg, hg', ht, hd, hsub.trans (List.sublist_append_left _ _)⟩

/-- What a map stands for stays so. -/
theorem Phase.Holds.append (h : phase.Holds groups name asked s) (trace : List Asked) :
    phase.Holds groups name (asked ++ trace) s := by
  cases phase with
  | unsettled => exact fun template parameters hs => (h template parameters hs).append trace
  | submitted =>
    obtain ⟨template, parameters, hs, g, t, operation, hg, ht, hmem⟩ := h
    exact ⟨template, parameters, hs, g, t, operation, hg, ht, List.mem_append_left _ hmem⟩
  | settled =>
    obtain ⟨template, parameters, hs, hconfirmed⟩ := h
    exact ⟨template, parameters, hs, hconfirmed.append trace⟩

/-- What a map stands for is in its checksums. -/
theorem Phase.Holds.congr (h : phase.Holds groups name asked s)
    (htemplate : s'.templateChecksum = s.templateChecksum)
    (hparameters : s'.parametersChecksum = s.parametersChecksum) :
    phase.Holds groups name asked s' := by
  have hknows : s'.Knows = s.Knows := by
    funext template parameters
    unfold HandlerState.Knows
    rw [htemplate, hparameters]
  cases phase <;> (unfold Phase.Holds at h ⊢; rw [hknows]; exact h)

/-- A template that is unchanged has the checksums in the map. -/
theorem knows_of_drift_eq_none {t : DeploymentTemplate} (h : drift s t = none) :
    s.Knows t.checksums.1 t.checksums.2 := by
  unfold drift at h
  split at h
  · assumption
  · cases h

/-- A stage keeps what the map stands for. -/
theorem Settling.holds (h : Settling groups name s phase phase' s' trace)
    (hs : phase.Holds groups name asked s) : phase'.Holds groups name (asked ++ trace) s' := by
  cases h with
  | stays => exact hs.append trace
  | reopened =>
    obtain ⟨a, b, hknows, hconfirmed⟩ := hs
    rintro template parameters ⟨htemplate, hparameters⟩
    have ha : a = template := Option.some.inj (hknows.1.symm.trans htemplate)
    have hb : b = parameters := Option.some.inj (hknows.2.symm.trans hparameters)
    rw [← ha, ← hb]
    exact hconfirmed.append trace
  | forgot =>
    rintro template parameters ⟨htemplate, -⟩
    rw [(HandlerState.checksums_clearChecksums s).1] at htemplate
    cases htemplate
  | @unchanged t _ hdrift =>
    have hknows := knows_of_drift_eq_none hdrift
    exact ⟨_, _, hknows, (hs _ _ hknows).append trace⟩
  | @submitted g t operation _ hg hasked =>
    exact ⟨_, _, HandlerState.checksums_setChecksums s _ _, g, t, operation, hg, rfl,
      List.mem_append_right _ hasked⟩
  | @succeeded g d _ hg hd hasked =>
    obtain ⟨template, parameters, hknows, g₀, t, operation, hg₀, ht, hmem⟩ := hs
    refine ⟨template, parameters, hknows, g₀, g, t, operation, d, hg₀, hg, ht, hd, ?_⟩
    -- The deployment was submitted before this stage, and is observed in it.
    exact (List.singleton_sublist.2 hmem).append (List.singleton_sublist.2 hasked)

/-- A stage may ask for more. -/
theorem Settling.mono {trace' : List Asked} (h : Settling groups name s phase phase' s' trace)
    (hsub : trace ⊆ trace') : Settling groups name s phase phase' s' trace' := by
  cases h with
  | stays => exact .stays
  | reopened => exact .reopened
  | forgot => exact .forgot
  | unchanged hdrift => exact .unchanged hdrift
  | submitted hg hasked => exact .submitted hg (hsub hasked)
  | succeeded hg hd hasked => exact .succeeded hg hd (hsub hasked)

/-! ## Deployments of a stage -/

/-- A deployment is submitted unless it is unchanged. -/
theorem settling_submitIfChanged {g : ResourceGroup} {t : DeploymentTemplate}
    {result : Bool × HandlerState} (hg : groups g)
    (h : Yields (submitIfChanged g name s t) trace result) :
    Settling groups name s .unsettled (if result.1 then .submitted else .settled)
      result.2 trace := by
  unfold submitIfChanged at h
  split at h
  · rename_i hdrift
    cases (yields_done.1 h).2
    exact .unchanged hdrift
  · rename_i template parameters hdrift
    obtain ⟨operation, before, after, rfl, hput, hend⟩ := yields_bind.1 h
    cases (yields_done.1 hend).2
    have hchecksums : t.checksums = (template, parameters) := by
      unfold drift at hdrift
      split at hdrift
      · cases hdrift
      · exact Option.some.inj hdrift
    have hstate : s.setChecksums template parameters =
        s.setChecksums t.checksums.1 t.checksums.2 := by
      rw [hchecksums]
    rw [yields_groupCall.1 hput]
    show Settling groups name s .unsettled .submitted (s.setChecksums template parameters) _
    rw [hstate]
    exact .submitted hg (List.mem_append_left _ (List.mem_singleton.2 rfl))

/-- The phase after a deployment was observed, and the map that goes with it. -/
def DeploymentState.next (s : HandlerState) : DeploymentState → Phase × HandlerState
  | .succeeded => (.settled, s)
  | .failed | .missing => (.unsettled, s.clearChecksums)
  | .running => (.submitted, s)

/-- A deployment that was submitted is observed, and forgotten unless it succeeded or goes on. -/
theorem settling_observeDeployment {g : ResourceGroup} {state : DeploymentState} (hg : groups g)
    (h : Yields (observeDeployment g name) trace state) :
    Settling groups name s .submitted (state.next s).1 (state.next s).2 trace := by
  obtain ⟨found, before, after, rfl, hfound, hend⟩ := yields_bind.1 h
  rcases yields_find?.1 hfound with ⟨d, rfl, rfl⟩ | ⟨e, -, rfl, rfl⟩
  · have hd : d.observe = state := Except.ok.inj (yields_done.1 hend).2
    cases state with
    | succeeded => exact .succeeded hg hd (List.mem_append_left _ (List.mem_singleton.2 rfl))
    | failed => exact .forgot
    | missing => exact .forgot
    | running => exact .stays
  · cases (yields_done.1 hend).2
    exact .forgot

/-! ## Passes -/

section

variable {σ : Type} [Stage σ]

/-- Whether all maps that were stored for a handler stand for what the run has come to. -/
def Stored.Tells (groups : ResourceGroup → Prop) (name : String) (phaseOf : HandlerState → Phase)
    (handler : String) (asked : List Asked) (stored : Stored) : Prop :=
  ∀ maps ∈ stored.all, (phaseOf (HandlerState.load (some maps) handler)).Holds groups name asked
    (HandlerState.load (some maps) handler)

/-- A stage that leaves the map does about the deployment what its successors say. -/
theorem Settling.of_follows {phaseOf : σ → Phase} {source : σ} {o : Outcome σ}
    (hsuccessors : ∀ t ∈ Stage.successors source, phaseOf t = phaseOf source ∨
      (phaseOf source = .settled ∧ phaseOf t = .unsettled))
    (h : Stage.follows source o.transition.stage = true) (hstate : o.state = s) :
    Settling groups name s (phaseOf source) (phaseOf o.transition.stage) o.state trace := by
  have hphase : phaseOf o.transition.stage = phaseOf source ∨
      (phaseOf source = .settled ∧ phaseOf o.transition.stage = .unsettled) := by
    unfold Stage.follows at h
    rw [Bool.or_eq_true, decide_eq_true_iff, decide_eq_true_iff] at h
    rcases h with h | h
    · rw [h]
      exact Or.inl rfl
    · exact hsuccessors _ h
  rw [hstate]
  rcases hphase with hphase | ⟨hsettled, hunsettled⟩
  · rw [hphase]
    exact .stays
  · rw [hsettled, hunsettled]
    exact .reopened

/-- A map that was written is loaded. -/
theorem load_applyTo (maps : HandlerMaps) (s : SavedState) :
    HandlerState.load (some (s.applyTo maps)) s.handler = ⟨s.values⟩ := by
  show HandlerState.mk (((maps.insert s.handler s.values).get? s.handler).getD .empty) = ⟨s.values⟩
  rw [Dict.get?_insert_self]
  rfl

/-- A pass keeps what the maps stand for, when its stage does. -/
theorem settlement_pass [LawfulStage σ] (phaseOf : σ → Phase) {settings : PassSettings}
    {now : Timestamp}
    {handler : String} {target : StatusTarget} {work : Program (Outcome σ)} {q : Program Nat}
    {stored stored' : Stored} (hwork : Asks Call.keepsStatus work)
    (hsettling : ∀ before o, Yields work before o →
      Stage.follows (s.stage σ) o.transition.stage = true →
        Settling groups name s (phaseOf (s.stage σ)) (phaseOf o.transition.stage) o.state before)
    (hs : (phaseOf (s.stage σ)).Holds groups name asked s)
    (htells : stored.Tells groups name (fun s => phaseOf (s.stage σ)) handler asked)
    (path : Path storing (work.bind (persist settings now handler target (s.stage σ)))
      stored trace q stored') :
    stored'.Tells groups name (fun s => phaseOf (s.stage σ)) handler (asked ++ trace) := by
  rcases pass_cases path with
    ⟨rest, hrest, -⟩ | ⟨o, before, stored₁, r, stored₂, hdone, hfollows, turn, rfl, hrest⟩
  · rw [stored_eq_of_path hwork hrest]
    exact fun maps hmaps => (htells maps hmaps).append trace
  · have hsilent : stored' = stored₂ :=
      hrest.silent (J := fun stored => stored = stored₂) rfl fun _ _ h => h
    rw [hsilent]
    rw [stored_eq_of_path hwork hdone] at turn
    rcases turn with rfl | ⟨rfl, -⟩
    · intro maps hmaps
      rcases List.mem_cons.1 hmaps with rfl | hmaps
      · -- The maps that were just written.
        have hload : HandlerState.load (some (stored.write
            ⟨target, handler, (o.state.after o.transition now).values⟩).latest) handler =
            o.state.after o.transition now :=
          load_applyTo stored.latest ⟨target, handler, _⟩
        dsimp only
        rw [hload, stage_of_after]
        have hchecksums := checksums_of_after o.state o.transition now
        have hholds := (hsettling before o hdone.yields hfollows).holds hs
        rw [← List.append_assoc]
        exact (hholds.append _).congr hchecksums.1 hchecksums.2
      · exact (htells maps hmaps).append _
    · exact fun maps hmaps => (htells maps hmaps).append _

end

end TenantFleet
