/-
# Calls that end a program

After some answers a program fails at once. That it does can be told from its parts: in a row of
programs the last call of a part is the last call of the row when the part fails with it.

* `Halts` : that a program fails with every call and result of a kind;
* `Halts.bind`, `Halts.call_bind` : how programs in a row do;
* `Halts.ends` : then nothing follows such a call.
-/
import TenantFleet.Proofs.Program.Trace

namespace TenantFleet.Program

variable {α β ω : Type} {E : Surroundings ω} {w w' : ω} {S : Asked → Prop}

/-- Whether a program fails with every call and result of a kind. -/
def Halts (S : Asked → Prop) : Program α → Prop
  | done _ => True
  | note _ rest => Halts S rest
  | ask c resume => ∀ r, (S ⟨c, r⟩ → ∃ e, resume r = done (.error e)) ∧ Halts S (resume r)

namespace Halts

/-- Two programs in a row fail when their parts do. -/
theorem bind {p : Program α} {next : α → Program β} (hp : Halts S p)
    (hnext : ∀ a, Halts S (next a)) :
    Halts S (p.bind next) := by
  induction p with
  | done r =>
    cases r with
    | ok a => exact hnext a
    | error e => trivial
  | note event rest ih => exact ih hp
  | ask c resume ih =>
    refine fun r => ⟨fun hS => ?_, ih r (hp r).2⟩
    obtain ⟨e, hfail⟩ := (hp r).1 hS
    exact ⟨e, congrArg (Program.bind · next) hfail⟩

/-- A call whose answer leads to a failure when it is of the kind. -/
theorem call_bind {c : Call} {next : c.Answer → Program β}
    (hanswer : ∀ a, S ⟨c, .ok a⟩ → ∃ e, next a = done (.error e)) (hnext : ∀ a, Halts S (next a)) :
    Halts S ((Program.call c).bind next) := by
  intro r
  cases r with
  | ok a => exact ⟨hanswer a, hnext a⟩
  | error e => exact ⟨fun _ => ⟨c.raise e, rfl⟩, trivial⟩

/-- A call whose answers are not of the kind. -/
theorem call {c : Call} (hanswer : ∀ a, ¬S ⟨c, .ok a⟩) : Halts S (Program.call c) := by
  intro r
  cases r with
  | ok a => exact ⟨fun hS => absurd hS (hanswer a), trivial⟩
  | error e => exact ⟨fun _ => ⟨c.raise e, rfl⟩, trivial⟩

/-- A request for a resource, when neither an answer nor that there is none is of the kind. -/
theorem find? {g : ResourceGroup} {k : CloudCall}
    (hanswer : ∀ a, ¬S ⟨.cloud g.account g.name k, .ok a⟩)
    (hmissing : ∀ e : AzureError, e.isNotFound = true → ¬S ⟨.cloud g.account g.name k, .error e⟩) :
    Halts S (g.find? k) := by
  intro r
  cases r with
  | ok a => exact ⟨fun hS => absurd hS (hanswer a), trivial⟩
  | error e =>
    dsimp only
    split
    · rename_i he
      exact ⟨fun hS => absurd hS (hmissing e he), trivial⟩
    · exact ⟨fun _ => ⟨.azure e, rfl⟩, trivial⟩

/-- A call of the kind is the last one, and the program has failed with it. -/
theorem ends {p q : Program α} {before after : List Asked} {a : Asked} (hp : Halts S p)
    (path : Path E p w (before ++ a :: after) q w') (ha : S a) :
    after = [] ∧ ∃ e, q = done (.error e) := by
  generalize htrace : before ++ a :: after = trace at path
  induction path generalizing before with
  | here p w => exact absurd htrace (by simp)
  | note path ih => exact ih hp htrace
  | @ask c resume q w w₁ w' r trace turn path ih =>
    cases before with
    | nil =>
      obtain ⟨rfl, rfl⟩ := List.cons.inj htrace
      obtain ⟨e, hfail⟩ := (hp r).1 ha
      rw [hfail] at path
      cases path
      exact ⟨rfl, e, rfl⟩
    | cons b before =>
      obtain ⟨-, rfl⟩ := List.cons.inj htrace
      exact ih (hp r).2 rfl

end Halts

end TenantFleet.Program
