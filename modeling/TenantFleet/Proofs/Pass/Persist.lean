/-
# Keeping the outcome of a stage

All machines keep what their stages end with in one way: one write, with the stage of the transition
in the map, and then nothing but an event.

* `stage_after` : the stage that is written;
* `safe_persist` : what holds after the write holds at the end of the pass.
-/
import TenantFleet.Pass.Basic
import TenantFleet.Proofs.Program.Path

namespace TenantFleet

open Program

variable {σ ω : Type} [Stage σ]

/-- The stage in the map after a transition. -/
theorem stage_after (s : HandlerState) (t : Transition σ) (now : Timestamp) :
    (s.after t now).values.get? HandlerState.stageKey = some (Stage.name t.stage) := by
  unfold HandlerState.after
  split
  · unfold HandlerState.touch HandlerState.setStage
    rw [Dict.get?_insert_of_ne _ _ (Ne.symm HandlerState.stageKey_ne_touchKey),
      Dict.get?_insert_self]
  · exact Dict.get?_insert_self _ _ _

/-- Keeping an outcome is safe when the write is, and leaves what holds before and after
the write. -/
theorem safe_persist {E : Surroundings ω} {D : Demand ω} {K : List Asked → ω → Prop}
    {asked : List Asked} {w : ω} (settings : PassSettings) (now : Timestamp) (handler : String)
    (target : StatusTarget) (source : σ) (o : Outcome σ) (halways : D.always asked w)
    (hK : K asked w)
    (hissue : D.issue asked w (.saveStatus target handler (o.state.after o.transition now).values))
    (hturn : ∀ r w',
      E.answers (.saveStatus target handler (o.state.after o.transition now).values) w r w' →
        D.always
          (asked ++ [⟨.saveStatus target handler (o.state.after o.transition now).values, r⟩]) w' ∧
        K (asked ++ [⟨.saveStatus target handler (o.state.after o.transition now).values, r⟩]) w')
    (hnote : ∀ asked w event, D.always asked w → K asked w →
      D.always asked (E.note event w) ∧ K asked (E.note event w)) :
    Safe E D (Safe.Ends (fun asked w _ => K asked w) K)
      (persist settings now handler target source o) asked w := by
  unfold persist
  refine Safe.andThen (Q := fun asked' w' _ => asked' = asked ∧ w' = w)
    (Safe.ofExcept halways (fun _ _ => ⟨rfl, rfl⟩) fun _ _ => hK) ?_
  rintro asked w _ - ⟨rfl, rfl⟩
  refine Safe.andThen (Q := fun asked w _ => K asked w) (Safe.attempt halways hissue hturn) ?_
  intro asked w r halways hK
  cases r with
  | error e =>
    dsimp only
    split
    · exact Safe.pure halways hK
    · exact ⟨halways, hK⟩
  | ok a =>
    unfold changeOf
    dsimp only
    split
    · exact Safe.pure halways hK
    · obtain ⟨halways', hK'⟩ := hnote asked w _ halways hK
      exact ⟨halways, Safe.pure halways' hK'⟩

end TenantFleet
