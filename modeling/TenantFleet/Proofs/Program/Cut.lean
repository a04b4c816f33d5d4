/-
# Cutting a run off

A rule names the calls that a run may be cut off at, and what they fail with then. The handler
counts these calls down; the one that the count runs out at fails and has no effect, and those after
it are answered as ever.

* `Handler.cutting` : the handler that lets one call of a rule fail;
* `Program.run_cutting` : a program without calls of the rule is not cut off;
* `Handler.Sims.cutting` : handlers that answer alike are cut off alike.
-/
import TenantFleet.Proofs.Program.Simulation

namespace TenantFleet

variable {α ω υ : Type} {rule : (c : Call) → Option c.Failure}

namespace Handler

/-- The handler that lets one call of a rule fail without effect, after as many others as are to be
answered. -/
def cutting (h : Handler ω) (rule : (c : Call) → Option c.Failure) : Handler (ω × Nat) where
  answer c s :=
    match rule c, s.2 with
    | some e, 1 => (.error e, (s.1, 0))
    | some _, n => ((h.answer c s.1).1, ((h.answer c s.1).2, n - 1))
    | none, n => ((h.answer c s.1).1, ((h.answer c s.1).2, n))
  note event s := (h.note event s.1, s.2)

/-- A call that the rule does not name is answered. -/
theorem cutting_answer_of_none (h : Handler ω) {c : Call} (hc : rule c = none) (w : ω) (n : Nat) :
    (h.cutting rule).answer c (w, n) = ((h.answer c w).1, ((h.answer c w).2, n)) := by
  simp only [cutting, hc]

/-- The call that the count runs out at fails. -/
theorem cutting_answer_one (h : Handler ω) {c : Call} {e : c.Failure}
    (hc : rule c = some e) (w : ω) : (h.cutting rule).answer c (w, 1) = (.error e, (w, 0)) := by
  simp only [cutting, hc]

/-- The other calls of the rule are answered and counted. -/
theorem cutting_answer_of_ne (h : Handler ω) {c : Call} {e : c.Failure}
    (hc : rule c = some e) (w : ω) {n : Nat} (hn : n ≠ 1) :
    (h.cutting rule).answer c (w, n) = ((h.answer c w).1, ((h.answer c w).2, n - 1)) := by
  simp only [cutting, hc]

/-- Handlers that answer alike are cut off alike. -/
theorem Sims.cutting {h : Handler ω} {h' : Handler υ} {R : ω → υ → Prop} (hs : Sims h h' R)
    (rule : (c : Call) → Option c.Failure) :
    Sims (h.cutting rule) (h'.cutting rule) fun s t => R s.1 t.1 ∧ s.2 = t.2 where
  result := by
    rintro ⟨w, n⟩ ⟨u, _⟩ ⟨hR, rfl⟩ c
    cases hc : rule c with
    | none =>
      rw [cutting_answer_of_none h hc, cutting_answer_of_none h' hc]
      exact hs.result hR c
    | some e =>
      by_cases hn : n = 1
      · subst hn
        rw [cutting_answer_one h hc, cutting_answer_one h' hc]
      · rw [cutting_answer_of_ne h hc w hn, cutting_answer_of_ne h' hc u hn]
        exact hs.result hR c
  state := by
    rintro ⟨w, n⟩ ⟨u, _⟩ ⟨hR, rfl⟩ c
    cases hc : rule c with
    | none =>
      rw [cutting_answer_of_none h hc, cutting_answer_of_none h' hc]
      exact ⟨hs.state hR c, rfl⟩
    | some e =>
      by_cases hn : n = 1
      · subst hn
        rw [cutting_answer_one h hc, cutting_answer_one h' hc]
        exact ⟨hR, rfl⟩
      · rw [cutting_answer_of_ne h hc w hn, cutting_answer_of_ne h' hc u hn]
        exact ⟨hs.state hR c, rfl⟩
  note := by
    rintro ⟨w, n⟩ ⟨u, _⟩ ⟨hR, rfl⟩ event
    exact ⟨hs.note hR event, rfl⟩

end Handler

namespace Program

/-- A program without calls of the rule comes to its end. -/
theorem run_cutting {p : Program α} (hp : Asks (fun c => rule c = none) p) (h : Handler ω)
    (w : ω) (n : Nat) :
    run (h.cutting rule) p (w, n) = ((run h p w).1, ((run h p w).2, n)) := by
  induction p generalizing w with
  | done r => rfl
  | note event rest ih => exact ih hp _
  | ask c resume ih =>
    simp only [run]
    rw [Handler.cutting_answer_of_none h hp.1]
    exact ih _ (hp.2 _) _

end Program

end TenantFleet
