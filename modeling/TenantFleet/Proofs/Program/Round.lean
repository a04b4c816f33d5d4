/-
# Rounds of passes

A machine lives in passes: each starts from what it is given, and may be given up at any moment. A
run is the list of its rounds, which hold what the passes were given and what they asked; the last
round is the one that goes on.

* `Rounds` : the runs in some surroundings, with the state that they have come to;
* `Rounds.asked` : all calls of a run, in their order;
* `Rounds.exists_pass` : the pass that a round of a run comes from.
-/
import Mathlib.Logic.Function.Iterate
import TenantFleet.Proofs.Program.Trace

namespace TenantFleet

variable {ρ α ω : Type}

/-- A pass of a run. -/
structure Round (ρ : Type) where
  /-- What the pass was given. -/
  given : ρ
  /-- The calls of the pass so far, with their results. -/
  asked : List Asked

/-- The runs in some surroundings: what may be given to the next pass, and what this then is,
depends on the state; every pass may be given up at any moment. -/
inductive Rounds (E : Surroundings ω) (pass : ω → ρ → Program α → Prop) (w₀ : ω) :
    List (Round ρ) → ω → Prop
  /-- There was no pass yet. -/
  | start : Rounds E pass w₀ [] w₀
  /-- A pass has come to some moment. -/
  | next {rounds : List (Round ρ)} {w w' : ω} {given : ρ} {p q : Program α} {asked : List Asked}
    (before : Rounds E pass w₀ rounds w) (hp : pass w given p)
    (path : Program.Path E p w asked q w') : Rounds E pass w₀ (rounds ++ [⟨given, asked⟩]) w'

/-- All calls of a run. -/
def Rounds.asked (rounds : List (Round ρ)) : List Asked := rounds.flatMap Round.asked

namespace Rounds

@[simp] theorem asked_append (rounds rounds' : List (Round ρ)) :
    asked (rounds ++ rounds') = asked rounds ++ asked rounds' := by
  unfold asked
  rw [List.flatMap_append]

@[simp] theorem asked_singleton (given : ρ) (trace : List Asked) :
    asked [⟨given, trace⟩] = trace := by
  unfold asked
  rw [List.flatMap_singleton]

/-- Passes that run one after the other, each to its end, are a run. -/
theorem exists_of_run {E : Surroundings ω} {pass : ω → ρ → Program α → Prop} {h : Handler ω}
    (hanswer : ∀ c w, E.answers c w (h.answer c w).1 (h.answer c w).2) (hnote : E.note = h.note)
    (next : ω → ρ × Program α) (hnext : ∀ w, pass w (next w).1 (next w).2) (n : Nat) (w₀ : ω) :
    ∃ rounds, Rounds E pass w₀ rounds ((fun w => (Program.run h (next w).2 w).2)^[n] w₀) := by
  induction n with
  | zero => exact ⟨[], .start⟩
  | succ n ih =>
    obtain ⟨rounds, hrounds⟩ := ih
    rw [Function.iterate_succ_apply']
    obtain ⟨trace, path⟩ := Program.path_run hanswer hnote (next _).2 _
    exact ⟨_, .next hrounds (hnext _) path⟩

/-- Every round of a run was a pass, after the rounds before it. -/
theorem exists_pass {E : Surroundings ω} {pass : ω → ρ → Program α → Prop} {w₀ w : ω}
    {earlier later : List (Round ρ)} {r : Round ρ}
    (hrun : Rounds E pass w₀ (earlier ++ r :: later) w) :
    ∃ w₁ p q w₂, Rounds E pass w₀ earlier w₁ ∧ pass w₁ r.given p ∧
    Program.Path E p w₁ r.asked q w₂ := by
  generalize hrounds : earlier ++ r :: later = rounds at hrun
  induction hrun generalizing later with
  | start => exact absurd hrounds (by simp)
  | next before hp path ih =>
    rcases Program.split_of_concat hrounds.symm with ⟨rfl, rfl, -⟩ | ⟨later', -, hbefore⟩
    · exact ⟨_, _, _, _, before, hp, path⟩
    · exact ih hbefore.symm

end Rounds

end TenantFleet
