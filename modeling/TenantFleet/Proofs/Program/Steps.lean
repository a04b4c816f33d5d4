/-
# Steps in a row

How a run goes on from a call is decided by what comes back: an answer leads to the rest of the
program, a failure ends it, except where a missing resource is an answer too. So a program with
steps in a row has done them up to the first one that failed.

* `run_call_of_ok`, `asked_call_of_ok` and their likes : one rule for each call and each result;
* `Attempted` : what a program with steps in a row has asked, and its end.
-/
import TenantFleet.Proofs.Program.Simulation

namespace TenantFleet

open Program

variable {α ω : Type} {h : Handler ω} {w w' : ω}

/-! ## The first call of a run -/

namespace Program

section Calls

variable {c : Call} {next : c.Answer → Program α}

theorem run_call_of_ok {x : c.Answer} (hanswer : h.answer c w = (.ok x, w')) :
    run h ((call c).bind next) w = run h (next x) w' := by
  show run h ((done ((h.answer c w).1.mapError c.raise)).bind next) (h.answer c w).2 = _
  rw [hanswer]
  rfl

theorem asked_call_of_ok {x : c.Answer} (hanswer : h.answer c w = (.ok x, w')) :
    asked h ((call c).bind next) w = ⟨c, .ok x⟩ :: asked h (next x) w' := by
  show ⟨c, (h.answer c w).1⟩ :: asked h ((done ((h.answer c w).1.mapError c.raise)).bind next)
      (h.answer c w).2 = _
  rw [hanswer]
  rfl

theorem run_call_of_error {e : c.Failure} (hanswer : h.answer c w = (.error e, w')) :
    run h ((call c).bind next) w = (.error (c.raise e), w') := by
  show run h ((done ((h.answer c w).1.mapError c.raise)).bind next) (h.answer c w).2 = _
  rw [hanswer]
  rfl

theorem asked_call_of_error {e : c.Failure} (hanswer : h.answer c w = (.error e, w')) :
    asked h ((call c).bind next) w = [⟨c, .error e⟩] := by
  show ⟨c, (h.answer c w).1⟩ :: asked h ((done ((h.answer c w).1.mapError c.raise)).bind next)
      (h.answer c w).2 = _
  rw [hanswer]
  rfl

end Calls

section Lookups

variable {g : ResourceGroup} {k : CloudCall} {next : Option k.Answer → Program α}

theorem run_find?_of_ok {x : k.Answer}
    (hanswer : h.answer (.cloud g.account g.name k) w = (.ok x, w')) :
    run h ((g.find? k).bind next) w = run h (next (some x)) w' := by
  simp only [ResourceGroup.find?, Program.bind, run, hanswer]

theorem asked_find?_of_ok {x : k.Answer}
    (hanswer : h.answer (.cloud g.account g.name k) w = (.ok x, w')) :
    asked h ((g.find? k).bind next) w = ⟨.cloud g.account g.name k, .ok x⟩ ::
      asked h (next (some x)) w' := by
  simp only [ResourceGroup.find?, Program.bind, asked, hanswer]

theorem run_find?_of_missing {e : AzureError} (he : e.isNotFound = true)
    (hanswer : h.answer (.cloud g.account g.name k) w = (.error e, w')) :
    run h ((g.find? k).bind next) w = run h (next none) w' := by
  simp only [ResourceGroup.find?, Program.bind, run, hanswer, he, if_true]

theorem asked_find?_of_missing {e : AzureError} (he : e.isNotFound = true)
    (hanswer : h.answer (.cloud g.account g.name k) w = (.error e, w')) :
    asked h ((g.find? k).bind next) w = ⟨.cloud g.account g.name k, .error e⟩ ::
      asked h (next none) w' := by
  simp only [ResourceGroup.find?, Program.bind, asked, hanswer, he, if_true]

theorem run_find?_of_error {e : AzureError} (he : e.isNotFound = false)
    (hanswer : h.answer (.cloud g.account g.name k) w = (.error e, w')) :
    run h ((g.find? k).bind next) w = (.error (.azure e), w') := by
  simp [ResourceGroup.find?, Program.bind, run, hanswer, he]

theorem asked_find?_of_error {e : AzureError} (he : e.isNotFound = false)
    (hanswer : h.answer (.cloud g.account g.name k) w = (.error e, w')) :
    asked h ((g.find? k).bind next) w = [⟨.cloud g.account g.name k, .error e⟩] := by
  simp [ResourceGroup.find?, Program.bind, asked, hanswer, he]

end Lookups

end Program

/-! ## Steps up to a failure -/

/-- What a program with steps in a row has asked, and its end: every step was answered, or one
failed, which was the last one that was tried, and its failure is that of the program. -/
inductive Attempted (steps : List Asked) (a : α) : List Asked → Except Error α → Prop
  | all : Attempted steps a steps (.ok a)
  | failed (before : List Asked) (step : Asked) (after : List Asked) (e : step.call.Failure)
    (hsteps : steps = before ++ step :: after) :
    Attempted steps a (before ++ [⟨step.call, .error e⟩]) (.error (step.call.raise e))

namespace Attempted

variable {a : α} {steps trace : List Asked} {r : Except Error α} {c : Call}
  {next : c.Answer → Program α}

/-- One more step that is answered stands before the others. -/
theorem cons (hrest : Attempted steps a trace r) (step : Asked) :
    Attempted (step :: steps) a (step :: trace) r := by
  cases hrest with
  | all => exact .all
  | failed before failing after e hsteps =>
    exact .failed (step :: before) failing after e (by rw [hsteps]; rfl)

/-- A request that starts an operation, and the wait for its end, are two steps before the
others. -/
theorem operation {g : ResourceGroup} {k : CloudCall} [Inhabited k.Answer]
    (op : k.Answer → Operation) {P : List Asked → Prop} {rest : Program α}
    (hrest : ∀ w', ∃ steps, P steps ∧ Attempted steps a (asked h rest w') (run h rest w').1)
    (w : ω) :
    ∃ steps, (∃ x others, P others ∧
        steps = ⟨.cloud g.account g.name k, .ok x⟩ ::
          ⟨.cloud g.account g.name (.wait (op x)), .ok ()⟩ :: others) ∧
      Attempted steps a (asked h ((g.call k).bind fun x => (g.wait (op x)).bind fun _ => rest) w)
        (run h ((g.call k).bind fun x => (g.wait (op x)).bind fun _ => rest) w).1 := by
  unfold ResourceGroup.wait ResourceGroup.call
  cases hrequest : h.answer (.cloud g.account g.name k) w with
  | mk r w₁ =>
    cases r with
    | error e =>
      obtain ⟨others, hP, -⟩ := hrest w
      refine ⟨_, ⟨default, others, hP, rfl⟩, ?_⟩
      rw [asked_call_of_error hrequest, run_call_of_error hrequest]
      exact .failed [] ⟨.cloud g.account g.name k, .ok default⟩ _ e rfl
    | ok x =>
      rw [asked_call_of_ok hrequest, run_call_of_ok hrequest]
      cases hend : h.answer (.cloud g.account g.name (.wait (op x))) w₁ with
      | mk r w₂ =>
        cases r with
        | error e =>
          obtain ⟨others, hP, -⟩ := hrest w
          refine ⟨_, ⟨x, others, hP, rfl⟩, ?_⟩
          rw [asked_call_of_error hend, run_call_of_error hend]
          exact .failed [_] ⟨.cloud g.account g.name (.wait (op x)), .ok ()⟩ _ e rfl
        | ok _ =>
          obtain ⟨others, hP, hothers⟩ := hrest w₂
          refine ⟨_, ⟨x, others, hP, rfl⟩, ?_⟩
          rw [asked_call_of_ok hend, run_call_of_ok hend]
          exact (hothers.cons _).cons _

end Attempted

end TenantFleet
