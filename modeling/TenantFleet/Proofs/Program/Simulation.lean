/-
# Handlers that answer alike

Two handlers answer a program alike when their states are related, their answers to each call are
the same, and the states after it are related again. So what is shown of a run under the simpler
handler holds under the other one.

* `Program.asked` : the calls of a run with their results;
* `Handler.Sims` : that a handler answers like another one in related states;
* `Handler.Sims.run`, `Handler.Sims.asked`, `Handler.Sims.succeeds` : their runs have the same end,
  make the same calls, and succeed alike.
-/
import TenantFleet.Proofs.Program.Path
import TenantFleet.Proofs.Program.Success

namespace TenantFleet

open Program

/-! ## The calls of a run -/

namespace Program

variable {α β ω : Type}

/-- The calls of the run of a program, with their results. -/
def asked (h : Handler ω) : Program α → ω → List Asked
  | done _, _ => []
  | note event rest, w => asked h rest (h.note event w)
  | ask c resume, w =>
    ⟨c, (h.answer c w).1⟩ :: asked h (resume (h.answer c w).1) (h.answer c w).2

/-- The calls of two programs in a row, when the first one comes to a good end. -/
theorem asked_bind_of_ok {h : Handler ω} {p : Program α} {a : α} {w w' : ω}
    (hp : run h p w = (.ok a, w'))
    (next : α → Program β) : asked h (p.bind next) w = asked h p w ++ asked h (next a) w' := by
  induction p generalizing w with
  | done r =>
    obtain ⟨rfl, rfl⟩ := Prod.mk.inj hp
    rfl
  | note event rest ih => exact ih hp
  | ask c resume ih => exact congrArg (_ :: ·) (ih _ hp)

/-- The calls of two programs in a row, when the first one comes to a bad end. -/
theorem asked_bind_of_error {h : Handler ω} {p : Program α} {e : Error} {w w' : ω}
    (hp : run h p w = (.error e, w')) (next : α → Program β) :
    asked h (p.bind next) w = asked h p w := by
  induction p generalizing w with
  | done r =>
    obtain ⟨rfl, rfl⟩ := Prod.mk.inj hp
    rfl
  | note event rest ih => exact ih hp
  | ask c resume ih => exact congrArg (_ :: ·) (ih _ hp)

/-- The calls of a run are of the kind of the program. -/
theorem Asks.asked {P : Call → Prop} {p : Program α} (hp : Asks P p) (h : Handler ω) (w : ω) :
    ∀ a ∈ Program.asked h p w, P a.call := by
  induction p generalizing w with
  | done r =>
    intro a ha
    cases ha
  | note event rest ih => exact ih hp _
  | ask c resume ih =>
    intro a ha
    rcases List.mem_cons.1 ha with rfl | ha
    · exact hp.1
    · exact ih _ (hp.2 _) _ a ha

end Program

/-! ## Simulations -/

variable {α ω υ : Type}

/-- Whether a handler answers like another one in related states, and leaves related states. -/
structure Handler.Sims (h : Handler ω) (h' : Handler υ) (R : ω → υ → Prop) : Prop where
  result : ∀ {w u}, R w u → ∀ c, (h.answer c w).1 = (h'.answer c u).1
  state : ∀ {w u}, R w u → ∀ c, R (h.answer c w).2 (h'.answer c u).2
  note : ∀ {w u}, R w u → ∀ event, R (h.note event w) (h'.note event u)

namespace Handler.Sims

variable {h : Handler ω} {h' : Handler υ} {R : ω → υ → Prop} {w : ω} {u : υ}

/-- Runs in related states have the same end and leave related states. -/
theorem run (hs : Sims h h' R) (hR : R w u) (p : Program α) :
    (Program.run h p w).1 = (Program.run h' p u).1 ∧
    R (Program.run h p w).2 (Program.run h' p u).2 := by
  induction p generalizing w u with
  | done r => exact ⟨rfl, hR⟩
  | note event rest ih => exact ih (hs.note hR event)
  | ask c resume ih =>
    have hrest := ih (h.answer c w).1 (hs.state hR c)
    simp only [Program.run]
    rw [← hs.result hR c]
    exact hrest

/-- Runs in related states make the same calls, with the same results. -/
theorem asked (hs : Sims h h' R) (hR : R w u) (p : Program α) :
    Program.asked h p w = Program.asked h' p u := by
  induction p generalizing w u with
  | done r => rfl
  | note event rest ih => exact ih (hs.note hR event)
  | ask c resume ih =>
    have hrest := ih (h.answer c w).1 (hs.state hR c)
    simp only [Program.asked]
    rw [hrest, hs.result hR c]

/-- A run succeeds when the one in the related state does. -/
theorem succeeds {P : Call → Prop} {Q : α → υ → Prop} {p : Program α} (hs : Sims h h' R)
    (hR : R w u)
    (hrun : Succeeds h' P Q p u) : Succeeds h P (fun a w' => ∃ u', Q a u' ∧ R w' u') p w := by
  induction p generalizing w u with
  | done r =>
    cases r with
    | ok a => exact ⟨u, hrun, hR⟩
    | error e => exact hrun
  | note event rest ih => exact ih (hs.note hR event) hrun
  | ask c resume ih =>
    refine ⟨hrun.1, ?_⟩
    have hrest := hrun.2
    rw [← hs.result hR c] at hrest
    exact ih _ (hs.state hR c) hrest

end Handler.Sims

end TenantFleet
