/-
# The moments of a pass

A pass runs a stage and keeps its outcome. So at each of its moments the stage goes on, or has
failed, or was refused; or it came to an outcome that the table allows, and the one write of the
pass was answered.

* `LawfulStage` : stages that are found again by their names;
* `stage_of_after`, `checksums_of_after` : what a map says after a transition;
* `persist_eq` : keeping an outcome, as the write with what follows it;
* `pass_cases` : the moments of a pass;
* `write_of_pass` : the write that a pass is about to make.
-/
import TenantFleet.Masters.Pass
import TenantFleet.Workers.Pass
import TenantFleet.Proofs.Pass.Persist
import TenantFleet.Proofs.Program.Trace

namespace TenantFleet

open Program

/-! ## Maps after a transition -/

/-- Stages that are found again by their names. -/
class LawfulStage (σ : Type) [Stage σ] : Prop where
  /-- The name of a stage is that of no other stage. -/
  ofName_name : ∀ s : σ, Stage.ofName (Stage.name s) = s

instance : LawfulStage MastersStage := ⟨MastersStage.ofName_name⟩

instance : LawfulStage WorkersStage := ⟨WorkersStage.ofName_name⟩

variable {σ ω : Type} [Stage σ]

/-- A stage may stay. -/
theorem follows_self (s : σ) : Stage.follows s s = true := by
  unfold Stage.follows
  rw [decide_eq_true rfl, Bool.true_or]

/-- A map is in the stage of the transition that it was kept with. -/
theorem stage_of_after [LawfulStage σ] (s : HandlerState) (t : Transition σ) (now : Timestamp) :
    (s.after t now).stage σ = t.stage := by
  unfold HandlerState.stage
  rw [stage_after]
  exact LawfulStage.ofName_name t.stage

/-- A transition changes neither checksum. -/
theorem checksums_of_after (s : HandlerState) (t : Transition σ) (now : Timestamp) :
    (s.after t now).templateChecksum = s.templateChecksum ∧
      (s.after t now).parametersChecksum = s.parametersChecksum := by
  have hset : ∀ key, HandlerState.stageKey ≠ key →
      (s.setStage t.stage).values.get? key = s.values.get? key := fun key hkey =>
    Dict.get?_insert_of_ne _ _ hkey
  have hafter : ∀ key, HandlerState.stageKey ≠ key → HandlerState.touchKey ≠ key →
      (s.after t now).values.get? key = s.values.get? key := by
    intro key hstage htouch
    unfold HandlerState.after
    split
    · exact (Dict.get?_insert_of_ne _ _ htouch).trans (hset key hstage)
    · exact hset key hstage
  constructor
  · exact hafter _ HandlerState.stageKey_ne_templateKey HandlerState.touchKey_ne_templateKey
  · exact hafter _ HandlerState.stageKey_ne_parametersKey HandlerState.touchKey_ne_parametersKey

/-! ## The write of a pass -/

/-- Whether a call leaves what is stored for the handlers. -/
def Call.keepsStatus : Call → Prop
  | .saveStatus _ _ _ => False
  | _ => True

instance : DecidablePred Call.keepsStatus
  | .saveStatus _ _ _ => isFalse id
  | .cloud _ _ _ | .openAccount _ | .openTenant _ _ | .tenant _ _ _ | .createDrain _ |
    .listDrains _ _
  | .deleteDrain _ _ | .findBundle _ _ | .getMachinePool _ _ | .getCluster _ _ | .getAzureConfig _ _
  | .ensureCertConfig _ | .mastersTemplate _ _ | .poolTemplate _ _ _ => isTrue trivial

/-- What a pass does when its write was answered: a write that lost against another one is no
failure, and a stage that changed is counted. -/
def afterWrite (settings : PassSettings) (handler : String) (source : σ) (t : Transition σ) :
    Except Error Unit → Program Nat
  | .error e => if e.isConflict then .done (.ok settings.wait) else Program.fail e
  | .ok _ => (changeOf handler source t.stage).bind fun _ => .done (.ok t.requeue)

/-- Keeping an outcome that the table allows is one write. -/
theorem persist_eq (settings : PassSettings) (now : Timestamp) (handler : String)
    (target : StatusTarget) {source : σ} {o : Outcome σ}
    (hfollows : Stage.follows source o.transition.stage = true) :
    persist settings now handler target source o =
      .ask (.saveStatus target handler (o.state.after o.transition now).values)
        (afterWrite settings handler source o.transition) := by
  unfold persist
  rw [(Transition.validate_eq_ok_iff o.transition source).2 hfollows]
  refine congrArg (Program.ask _) (funext fun r => ?_)
  cases r <;> rfl

/-- An outcome that the table does not have is refused. -/
theorem persist_of_not_follows (settings : PassSettings) (now : Timestamp) (handler : String)
    (target : StatusTarget) {source : σ} {o : Outcome σ}
    (hfollows : ¬ Stage.follows source o.transition.stage = true) :
    persist settings now handler target source o =
      .done (.error (.invalidTransition (Stage.name source) (Stage.name o.transition.stage))) := by
  unfold persist Transition.validate
  rw [if_neg hfollows]
  rfl

/-- Nothing is asked behind the write of a pass. -/
theorem asks_afterWrite {P : Call → Prop} (settings : PassSettings) (handler : String) (source : σ)
    (t : Transition σ) (r : Except Error Unit) :
    Asks P (afterWrite settings handler source t r) := by
  cases r with
  | error e =>
    unfold afterWrite
    dsimp only
    split <;> trivial
  | ok a =>
    refine .bind ?_ fun _ => trivial
    unfold changeOf
    split <;> trivial

/-- A moment of a pass is one of its stage, or comes after the write of an outcome that the table
allows. -/
theorem pass_cases {E : Surroundings ω} {settings : PassSettings} {now : Timestamp}
    {handler : String}
    {target : StatusTarget} {source : σ} {work : Program (Outcome σ)} {q : Program Nat} {w w' : ω}
    {trace : List Asked}
    (path : Path E (work.bind (persist settings now handler target source)) w trace q w') :
    (∃ rest, Path E work w trace rest w' ∧
        q = rest.bind (persist settings now handler target source)) ∨
      ∃ o before w₁ r w₂, Path E work w before (done (.ok o)) w₁ ∧
        Stage.follows source o.transition.stage = true ∧
        E.answers (.saveStatus target handler (o.state.after o.transition now).values) w₁ r w₂ ∧
        trace = before ++
          [⟨.saveStatus target handler (o.state.after o.transition now).values, r⟩] ∧
        Path E (afterWrite settings handler source o.transition r) w₂ [] q w' := by
  rcases path.bind_cases with hwork | ⟨o, w₁, before, after, rfl, hwork, hkeep⟩
  · exact Or.inl hwork
  by_cases hfollows : Stage.follows source o.transition.stage = true
  · rw [persist_eq settings now handler target hfollows] at hkeep
    cases hkeep with
    | here =>
      refine Or.inl ⟨done (.ok o), ?_, ?_⟩
      · rw [List.append_nil]
        exact hwork
      · exact (persist_eq settings now handler target hfollows).symm
    | @ask _ _ _ _ w₂ _ r rest turn hrest =>
      have hsilent : rest = [] := by
        cases rest with
        | nil => rfl
        | cons a rest =>
          have hissues := hrest.forget.issues_of_append [] rest
          exact ((asks_afterWrite (P := fun _ => False) settings handler source o.transition
            r).of_issues hissues).elim
      subst hsilent
      exact Or.inr ⟨o, before, w₁, r, w₂, hwork, hfollows, turn, rfl, hrest⟩
  · have heq := persist_of_not_follows settings now handler target hfollows
    rw [heq] at hkeep
    cases hkeep with
    | here =>
      refine Or.inl ⟨done (.ok o), ?_, heq.symm⟩
      rw [List.append_nil]
      exact hwork

/-- A pass that is about to make a write has come to an outcome that the table allows, and the write
is that of its map. -/
theorem write_of_pass {E : Surroundings ω} {settings : PassSettings} {now : Timestamp}
    {handler : String} {target : StatusTarget} {source : σ} {work : Program (Outcome σ)} {w w' : ω}
    {trace : List Asked}
    {t : StatusTarget} {h : String} {values : Dict String}
    {resume : Except Error Unit → Program Nat} (hwork : Asks Call.keepsStatus work)
    (path : Path E (work.bind (persist settings now handler target source)) w trace
      (.ask (.saveStatus t h values) resume) w') :
    ∃ o, Path E work w trace (done (.ok o)) w' ∧ Stage.follows source o.transition.stage = true ∧
      (.ask (.saveStatus t h values) resume : Program Nat) =
        .ask (.saveStatus target handler (o.state.after o.transition now).values)
          (afterWrite settings handler source o.transition) := by
  rcases pass_cases path with ⟨rest, hrest, heq⟩ | ⟨o, before, w₁, r, w₂, -, -, -, -, hsilent⟩
  · cases rest with
    | done r =>
      cases r with
      | error e => cases heq
      | ok o =>
        replace heq : _ = persist settings now handler target source o := heq
        by_cases hfollows : Stage.follows source o.transition.stage = true
        · rw [persist_eq settings now handler target hfollows] at heq
          exact ⟨o, hrest, hfollows, heq⟩
        · rw [persist_of_not_follows settings now handler target hfollows] at heq
          cases heq
    | note event rest => cases heq
    | ask c resume' =>
      -- The stage itself makes no writes.
      cases heq
      exact (hwork.of_issues hrest.issues).elim
  · exact ((asks_afterWrite (P := fun _ => False) settings handler source o.transition r).of_issues
      hsilent.issues).elim

/-! ## The passes of the machines -/

/-- A pass over the masters runs their stage and keeps the outcome. -/
theorem Masters.ensure_eq (settings : PassSettings) (now : Timestamp) (c : AzureConfig) :
    Masters.ensure settings now c =
      (Masters.stage settings c (Masters.stateOf c) ((Masters.stateOf c).stage MastersStage)).bind
        (persist settings now Masters.handler (StatusTarget.ofConfig c)
          ((Masters.stateOf c).stage MastersStage)) :=
  rfl

/-- A pass over the workers runs their stage and keeps the outcome. -/
theorem Workers.ensure_eq (x : Workers.Scope) (now : Timestamp) :
    Workers.ensure x now =
      (Workers.stage x (Workers.stateOf x.pool) ((Workers.stateOf x.pool).stage WorkersStage)).bind
        (persist x.settings now Workers.handler (StatusTarget.ofPool x.pool)
          ((Workers.stateOf x.pool).stage WorkersStage)) :=
  rfl

end TenantFleet
