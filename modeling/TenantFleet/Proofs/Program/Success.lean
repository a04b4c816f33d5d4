/-
# Runs that succeed

A world in memory answers each call in one way. So a program has one run in it, and whether the run
comes to a good end can be told call by call.

* `Program.calls` : the calls of a run;
* `Program.Succeeds` : that a run comes to a good end with calls of a kind only, by recursion on the
  program;
* `Program.Succeeds.run` : what a run that succeeds leaves.
-/
import TenantFleet.Program.Service

namespace TenantFleet.Program

variable {α β ω : Type}

/-- The calls of the run of a program. -/
def calls (h : Handler ω) : Program α → ω → List Call
  | done _, _ => []
  | note event rest, w => calls h rest (h.note event w)
  | ask c resume, w => c :: calls h (resume (h.answer c w).1) (h.answer c w).2

/-- Whether the run of a program comes to a good end as it should, with calls of a kind only. -/
def Succeeds (h : Handler ω) (P : Call → Prop) (Q : α → ω → Prop) : Program α → ω → Prop
  | done (.ok a), w => Q a w
  | done (.error _), _ => False
  | note event rest, w => Succeeds h P Q rest (h.note event w)
  | ask c resume, w => P c ∧ Succeeds h P Q (resume (h.answer c w).1) (h.answer c w).2

namespace Succeeds

variable {h : Handler ω} {P P' : Call → Prop} {Q Q' : α → ω → Prop} {p : Program α} {w : ω}

/-- A run that succeeds has a good end, and made only calls of the kind. -/
theorem run (hs : Succeeds h P Q p w) :
    ∃ a, (Program.run h p w).1 = .ok a ∧ Q a (Program.run h p w).2 ∧
    ∀ call ∈ calls h p w, P call := by
  induction p generalizing w with
  | done r =>
    cases r with
    | ok a => exact ⟨a, rfl, hs, fun _ hcall => by cases hcall⟩
    | error e => exact hs.elim
  | note event rest ih => exact ih hs
  | ask c resume ih =>
    obtain ⟨a, hr, hQ, hcalls⟩ := ih _ hs.2
    refine ⟨a, hr, hQ, fun call hcall => ?_⟩
    rcases List.mem_cons.1 hcall with rfl | hcall
    · exact hs.1
    · exact hcalls call hcall

/-- A weaker end is reached as well, with calls of a wider kind. -/
theorem mono (hs : Succeeds h P Q p w) (hP : ∀ call, P call → P' call)
    (hQ : ∀ a w, Q a w → Q' a w) :
    Succeeds h P' Q' p w := by
  induction p generalizing w with
  | done r =>
    cases r with
    | ok a => exact hQ a w hs
    | error e => exact hs.elim
  | note event rest ih => exact ih hs
  | ask c resume ih => exact ⟨hP c hs.1, ih _ hs.2⟩

/-- Two programs in a row succeed when the second one does after the first one. -/
theorem andThen {next : α → Program β} {R : β → ω → Prop} (hs : Succeeds h P Q p w)
    (hnext : ∀ a w, Q a w → Succeeds h P R (next a) w) : Succeeds h P R (p.bind next) w := by
  induction p generalizing w with
  | done r =>
    cases r with
    | ok a => exact hnext a w hs
    | error e => exact hs.elim
  | note event rest ih => exact ih hs
  | ask c resume ih => exact ⟨hs.1, ih _ hs.2⟩

/-- A call that is answered. -/
theorem call {c : Call} {Q : c.Answer → ω → Prop} {a : c.Answer} (hP : P c)
    (ha : (h.answer c w).1 = .ok a)
    (hQ : Q a (h.answer c w).2) : Succeeds h P Q (Program.call c) w := by
  refine ⟨hP, ?_⟩
  rw [ha]
  exact hQ

/-- A call whose result is looked at. -/
theorem attempt {c : Call} {Q : Except c.Failure c.Answer → ω → Prop} (hP : P c)
    (hQ : Q (h.answer c w).1 (h.answer c w).2) : Succeeds h P Q (Program.attempt c) w :=
  ⟨hP, hQ⟩

/-- A request for a resource that is there, or is missing. -/
theorem find? {g : ResourceGroup} {k : CloudCall} {Q : Option k.Answer → ω → Prop}
    {found : Option k.Answer} (hP : P (.cloud g.account g.name k))
    (hfound : match found with
      | some a => (h.answer (.cloud g.account g.name k) w).1 = .ok a
      | none => ∃ e : AzureError, e.isNotFound = true ∧
        (h.answer (.cloud g.account g.name k) w).1 = .error e)
    (hQ : Q found (h.answer (.cloud g.account g.name k) w).2) : Succeeds h P Q (g.find? k) w := by
  refine ⟨hP, ?_⟩
  cases found with
  | some a =>
    rw [hfound]
    exact hQ
  | none =>
    obtain ⟨e, hmissing, hr⟩ := hfound
    rw [hr]
    dsimp only
    rw [if_pos hmissing]
    exact hQ

end Succeeds

end TenantFleet.Program
