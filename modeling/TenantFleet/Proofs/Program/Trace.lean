/-
# The traces of a program

What a program does for its surroundings shows in its calls and what they were answered. A program
`Yields` a result after the calls of a trace, and `Issues` a call after them. Both can be read off
the program: each way to build a program has its equation.

* `Program.Path.bind_cases` : a moment of two programs in a row is one of the first, or of the
  second after a good end of the first;
* `Program.Path.bind_split`, `Program.Path.call_cases` : the moments of such programs, by how far
  they are;
* `Program.Path.yields`, `Program.Path.issues` : moments in any surroundings have such traces;
* `Program.yields_bind`, `Program.issues_bind` : the traces of two programs in a row;
* `Program.yields_forEach`, `Program.issues_forEach` : the traces of a program for each item;
* `Program.Path.keeps` : what the calls that a program issues keep.
-/
import TenantFleet.Proofs.Program.Path

namespace TenantFleet.Program

variable {α β ω : Type} {E : Surroundings ω} {w w' : ω} {c : Call} {trace : List Asked}

/-- A place in a list with one more item at its end is that end, or a place in the list. -/
theorem split_of_concat {l front back : List α} {x a : α} (h : l ++ [x] = front ++ a :: back) :
    (front = l ∧ a = x ∧ back = []) ∨ ∃ back', back = back' ++ [x] ∧ l = front ++ a :: back' := by
  rcases List.eq_nil_or_concat back with rfl | ⟨back', y, rfl⟩
  · obtain ⟨rfl, hlast⟩ := List.append_inj' h rfl
    exact Or.inl ⟨rfl, (List.cons.inj hlast).1.symm, rfl⟩
  · rw [List.concat_eq_append, ← List.cons_append, ← List.append_assoc] at h
    obtain ⟨rfl, hlast⟩ := List.append_inj' h rfl
    cases hlast
    exact Or.inr ⟨back', List.concat_eq_append .., rfl⟩

/-! ## Moments of programs in a row -/

/-- A moment of two programs in a row is one of the first, or one of the second after a good end of
the first. -/
theorem Path.bind_cases {p : Program α} {next : α → Program β} {q : Program β}
    (path : Path E (p.bind next) w trace q w') :
    (∃ rest, Path E p w trace rest w' ∧ q = rest.bind next) ∨
      ∃ a w₁ before after, trace = before ++ after ∧ Path E p w before (done (.ok a)) w₁ ∧
        Path E (next a) w₁ after q w' := by
  induction p generalizing w trace with
  | done r =>
    cases r with
    | ok a => exact Or.inr ⟨a, w, [], trace, rfl, .here _ _, path⟩
    | error e =>
      cases path with
      | here => exact Or.inl ⟨done (.error e), .here _ _, rfl⟩
  | note event rest ih =>
    cases path with
    | here => exact Or.inl ⟨.note event rest, .here _ _, rfl⟩
    | note path =>
      rcases ih path with ⟨rest', hrest, rfl⟩ | ⟨a, w₁, before, after, rfl, hfirst, hsecond⟩
      · exact Or.inl ⟨rest', .note hrest, rfl⟩
      · exact Or.inr ⟨a, w₁, before, after, rfl, .note hfirst, hsecond⟩
  | ask c resume ih =>
    cases path with
    | here => exact Or.inl ⟨.ask c resume, .here _ _, rfl⟩
    | ask turn path =>
      rcases ih _ path with ⟨rest', hrest, rfl⟩ | ⟨a, w₁, before, after, rfl, hfirst, hsecond⟩
      · exact Or.inl ⟨rest', .ask turn hrest, rfl⟩
      · exact Or.inr ⟨a, w₁, _ :: before, after, rfl, .ask turn hfirst, hsecond⟩

/-- The moments of two programs in a row: the first one goes on or has failed, or it has ended
well. -/
theorem Path.bind_split {p : Program α} {next : α → Program β} {q : Program β}
    (path : Path E (p.bind next) w trace q w') :
    (∃ rest, Path E p w trace rest w' ∧ ∀ b, q ≠ done (.ok b)) ∨
      ∃ a w₁ before after, trace = before ++ after ∧ Path E p w before (done (.ok a)) w₁ ∧
        Path E (next a) w₁ after q w' := by
  rcases path.bind_cases with ⟨rest, hrest, rfl⟩ | hsecond
  · cases rest with
    | done r =>
      cases r with
      | ok a => exact Or.inr ⟨a, w', trace, [], (List.append_nil _).symm, hrest, .here _ _⟩
      | error e => exact Or.inl ⟨_, hrest, fun b h => by cases h⟩
    | note event rest => exact Or.inl ⟨_, hrest, fun b h => by cases h⟩
    | ask c resume => exact Or.inl ⟨_, hrest, fun b h => by cases h⟩
  · exact Or.inr hsecond

/-- The calls of a moment with their results, whatever the surroundings are. -/
theorem Path.forget {p q : Program α} (path : Path E p w trace q w') :
    Path .any p () trace q () := by
  induction path with
  | here p w => exact .here p ()
  | note path ih => exact .note ih
  | ask turn path ih => exact .askAny ih

/-! ## Traces -/

/-- Whether a program may come to a result after the calls of a trace. -/
def Yields (p : Program α) (trace : List Asked) (a : α) : Prop :=
  Path .any p () trace (done (.ok a)) ()

/-- Whether a program may be about to make a call after the calls of a trace. -/
def Issues (p : Program α) (trace : List Asked) (c : Call) : Prop :=
  ∃ resume, Path .any p () trace (ask c resume) ()

/-- A result that a program comes to in some surroundings. -/
theorem Path.yields {p : Program α} {a : α} (path : Path E p w trace (done (.ok a)) w') :
    Yields p trace a :=
  path.forget

/-- A call that a program is about to make in some surroundings. -/
theorem Path.issues {p : Program α} {resume : Except c.Failure c.Answer → Program α}
    (path : Path E p w trace (.ask c resume) w') : Issues p trace c :=
  ⟨resume, path.forget⟩

/-! ## Results -/

@[simp] theorem yields_done {r : Except Error α} {a : α} :
    Yields (done r) trace a ↔ trace = [] ∧ r = .ok a := by
  constructor
  · intro path
    cases path with
    | here => exact ⟨rfl, rfl⟩
  · rintro ⟨rfl, rfl⟩
    exact .here _ ()

theorem yields_ask {resume : Except c.Failure c.Answer → Program α} {a : α} :
    Yields (ask c resume) trace a ↔
      ∃ r after, trace = ⟨c, r⟩ :: after ∧ Yields (resume r) after a := by
  constructor
  · intro path
    cases path with
    | ask turn path => exact ⟨_, _, rfl, path⟩
  · rintro ⟨r, after, rfl, path⟩
    exact .askAny path

theorem yields_bind {p : Program α} {next : α → Program β} {b : β} :
    Yields (p.bind next) trace b ↔
      ∃ a before after, trace = before ++ after ∧ Yields p before a ∧ Yields (next a) after b := by
  constructor
  · intro path
    rcases path.bind_split with ⟨_, -, hnot⟩ | ⟨a, _, before, after, htrace, hfirst, hsecond⟩
    · exact absurd rfl (hnot b)
    · exact ⟨a, before, after, htrace, hfirst, hsecond⟩
  · rintro ⟨a, before, after, rfl, hfirst, hsecond⟩
    exact hfirst.second hsecond

@[simp] theorem yields_call {a : c.Answer} :
    Yields (call c) trace a ↔ trace = [⟨c, .ok a⟩] := by
  unfold call
  rw [yields_ask]
  constructor
  · rintro ⟨r, after, rfl, hr⟩
    obtain ⟨rfl, hr⟩ := yields_done.1 hr
    cases r with
    | ok b =>
      cases hr
      rfl
    | error e => cases hr
  · rintro rfl
    exact ⟨.ok a, [], rfl, yields_done.2 ⟨rfl, rfl⟩⟩

/-- The moments of a call with what follows it: it is still to be made, it has failed, or it was
answered. -/
theorem Path.call_cases {next : c.Answer → Program β} {q : Program β}
    (path : Path E ((Program.call c).bind next) w trace q w') :
    (trace = [] ∧ ∀ r, q ≠ done r) ∨
      (∃ e, trace = [⟨c, .error e⟩] ∧ q = done (.error (c.raise e))) ∨
      ∃ a w₁ after, trace = ⟨c, .ok a⟩ :: after ∧ Path E (next a) w₁ after q w' := by
  rcases path.bind_cases with ⟨rest, hrest, rfl⟩ | ⟨a, w₁, before, after, rfl, hcall, hnext⟩
  · cases hrest with
    | here => exact Or.inl ⟨rfl, fun r h => by cases h⟩
    | @ask _ _ _ _ w₁ _ r _ turn hend =>
      cases r with
      | ok a =>
        cases hend
        exact Or.inr (Or.inr ⟨a, _, [], rfl, .here _ _⟩)
      | error e =>
        cases hend
        exact Or.inr (Or.inl ⟨e, rfl, rfl⟩)
  · rw [yields_call.1 hcall.yields]
    exact Or.inr (Or.inr ⟨a, w₁, after, rfl, hnext⟩)

@[simp] theorem yields_groupCall {g : ResourceGroup} {k : CloudCall} {a : k.Answer} :
    Yields (g.call k) trace a ↔ trace = [⟨.cloud g.account g.name k, .ok a⟩] :=
  yields_call

/-- A resource is found, or the request for it failed because there is none. -/
theorem yields_find? {g : ResourceGroup} {k : CloudCall} {found : Option k.Answer} :
    Yields (g.find? k) trace found ↔
      (∃ a, found = some a ∧ trace = [⟨.cloud g.account g.name k, .ok a⟩]) ∨
        ∃ e : AzureError, e.isNotFound = true ∧ found = none ∧
          trace = [⟨.cloud g.account g.name k, .error e⟩] := by
  unfold ResourceGroup.find?
  rw [yields_ask]
  constructor
  · rintro ⟨r, after, rfl, hr⟩
    cases r with
    | ok a =>
      obtain ⟨rfl, hr⟩ := yields_done.1 hr
      cases hr
      exact Or.inl ⟨a, rfl, rfl⟩
    | error e =>
      dsimp only at hr
      split at hr
      · rename_i hmissing
        obtain ⟨rfl, hr⟩ := yields_done.1 hr
        cases hr
        exact Or.inr ⟨e, hmissing, rfl, rfl⟩
      · cases (yields_done.1 hr).2
  · rintro (⟨a, rfl, rfl⟩ | ⟨e, hmissing, rfl, rfl⟩)
    · exact ⟨.ok a, [], rfl, yields_done.2 ⟨rfl, rfl⟩⟩
    · refine ⟨.error e, [], rfl, ?_⟩
      dsimp only
      rw [if_pos hmissing]
      exact yields_done.2 ⟨rfl, rfl⟩

/-- Every item of a list had its program. -/
theorem yields_forEach {l : List α} {step : α → Program Unit}
    (h : Yields (forEach l step) trace ()) {a : α} (ha : a ∈ l) :
    ∃ own, Yields (step a) own () ∧ own ⊆ trace := by
  induction l generalizing trace with
  | nil => cases ha
  | cons b rest ih =>
    obtain ⟨_, before, after, rfl, hb, hrest⟩ := yields_bind.1 h
    rcases List.mem_cons.1 ha with rfl | ha
    · exact ⟨before, hb, List.subset_append_left _ _⟩
    · obtain ⟨own, hown, hsub⟩ := ih hrest ha
      exact ⟨own, hown, List.Subset.trans hsub (List.subset_append_right _ _)⟩

/-! ## Calls -/

@[simp] theorem not_issues_done {r : Except Error α} : ¬ Issues (done r) trace c := by
  rintro ⟨resume, path⟩
  cases path

@[simp] theorem issues_note {event : Event} {rest : Program α} :
    Issues (note event rest) trace c ↔ Issues rest trace c := by
  constructor
  · rintro ⟨resume, path⟩
    cases path with
    | note path => exact ⟨resume, path⟩
  · rintro ⟨resume, path⟩
    exact ⟨resume, .note path⟩

theorem issues_ask {k : Call} {resume : Except k.Failure k.Answer → Program α} :
    Issues (ask k resume) trace c ↔
      (trace = [] ∧ c = k) ∨ ∃ r after, trace = ⟨k, r⟩ :: after ∧ Issues (resume r) after c := by
  constructor
  · rintro ⟨resume', path⟩
    cases path with
    | here => exact Or.inl ⟨rfl, rfl⟩
    | ask turn path => exact Or.inr ⟨_, _, rfl, resume', path⟩
  · rintro (⟨rfl, rfl⟩ | ⟨r, after, rfl, resume', path⟩)
    · exact ⟨resume, .here _ ()⟩
    · exact ⟨resume', .askAny path⟩

theorem issues_bind {p : Program α} {next : α → Program β} :
    Issues (p.bind next) trace c ↔
      Issues p trace c ∨
        ∃ a before after, trace = before ++ after ∧ Yields p before a ∧
        Issues (next a) after c := by
  constructor
  · rintro ⟨resume, path⟩
    rcases path.bind_cases with ⟨rest, hrest, heq⟩ | ⟨a, _, before, after, htrace, hfirst, hsecond⟩
    · cases rest with
      | done r =>
        cases r with
        | ok a =>
          have hnext : next a = ask c resume := heq.symm
          refine Or.inr ⟨a, trace, [], (List.append_nil _).symm, hrest, resume, ?_⟩
          rw [hnext]
          exact .here _ ()
        | error e => cases heq
      | note event rest => cases heq
      | ask c' resume' =>
        cases heq
        exact Or.inl ⟨resume', hrest⟩
    · exact Or.inr ⟨a, before, after, htrace, hfirst, resume, hsecond⟩
  · rintro (⟨resume, path⟩ | ⟨a, before, after, rfl, hfirst, resume, hsecond⟩)
    · exact ⟨_, path.first⟩
    · exact ⟨resume, Path.second hfirst hsecond⟩

@[simp] theorem issues_call {k : Call} : Issues (call k) trace c ↔ trace = [] ∧ c = k := by
  unfold call
  rw [issues_ask]
  simp

@[simp] theorem issues_groupCall {g : ResourceGroup} {k : CloudCall} :
    Issues (g.call k) trace c ↔ trace = [] ∧ c = .cloud g.account g.name k :=
  issues_call

@[simp] theorem issues_find? {g : ResourceGroup} {k : CloudCall} :
    Issues (g.find? k) trace c ↔ trace = [] ∧ c = .cloud g.account g.name k := by
  unfold ResourceGroup.find?
  rw [issues_ask]
  constructor
  · rintro (h | ⟨r, after, -, h⟩)
    · exact h
    · cases r with
      | ok a => exact absurd h not_issues_done
      | error e =>
        dsimp only at h
        split at h <;> exact absurd h not_issues_done
  · exact Or.inl

/-- A call that is made for a list is made for one of its items. -/
theorem issues_forEach {l : List α} {step : α → Program Unit}
    (h : Issues (forEach l step) trace c) : ∃ a ∈ l, ∃ own, Issues (step a) own c := by
  induction l generalizing trace with
  | nil => exact absurd h not_issues_done
  | cons b rest ih =>
    rcases issues_bind.1 h with hb | ⟨_, _, _, _, _, hrest⟩
    · exact ⟨b, List.mem_cons_self, trace, hb⟩
    · obtain ⟨a, ha, own, hown⟩ := ih hrest
      exact ⟨a, List.mem_cons_of_mem _ ha, own, hown⟩

/-- A program that makes only calls of a kind issues only such calls. -/
theorem Asks.of_issues {P : Call → Prop} {p : Program α} (hp : Asks P p) (h : Issues p trace c) :
    P c := by
  induction p generalizing trace with
  | done r => exact absurd h not_issues_done
  | note event rest ih => exact ih hp (issues_note.1 h)
  | ask k resume ih =>
    rcases issues_ask.1 h with ⟨-, rfl⟩ | ⟨r, after, -, h⟩
    · exact hp.1
    · exact ih r (hp.2 r) h

/-! ## Invariants -/

/-- A program keeps what all the calls that it issues keep. -/
theorem Path.keeps {J : List Asked → ω → Prop} {p q : Program α} (path : Path E p w trace q w')
    (hw : J [] w) (hnote : ∀ asked event w, J asked w → J asked (E.note event w))
    (hcall : ∀ asked c r w w', Issues p asked c → J asked w → E.answers c w r w' →
      J (asked ++ [⟨c, r⟩]) w') :
    J trace w' := by
  induction path generalizing J with
  | here p w => exact hw
  | note path ih =>
    refine ih (hnote _ _ _ hw) hnote ?_
    intro asked c r w w' hissue
    exact hcall asked c r w w' (issues_note.2 hissue)
  | @ask c resume q w w₁ w' r trace turn path ih =>
    -- What the rest keeps is the same, behind the first call.
    refine ih (J := fun asked w => J (⟨c, r⟩ :: asked) w) ?_ (fun asked => hnote _) ?_
    · exact hcall [] c r _ _ (issues_ask.2 (Or.inl ⟨rfl, rfl⟩)) hw turn
    · intro asked c' r' w w' hissue
      exact hcall (⟨c, r⟩ :: asked) c' r' w w' (issues_ask.2 (Or.inr ⟨r, asked, rfl, hissue⟩))

/-- The calls of a trace were issued, each after those before it. -/
theorem Path.issues_of_append {p q : Program α} (before after : List Asked) {a : Asked}
    (path : Path E p w (before ++ a :: after) q w') : Issues p before a.call := by
  generalize htrace : before ++ a :: after = trace at path
  induction path generalizing before with
  | here p w => exact absurd htrace (by simp)
  | note path ih => exact issues_note.2 (ih before htrace)
  | ask turn path ih =>
    rw [issues_ask]
    cases before with
    | nil =>
      cases htrace
      exact Or.inl ⟨rfl, rfl⟩
    | cons b before =>
      cases htrace
      exact Or.inr ⟨_, before, rfl, ih before rfl⟩

/-- The calls that a program has made are of the kind of its calls. -/
theorem Asks.of_path {P : Call → Prop} {p q : Program α} (hp : Asks P p)
    (path : Path E p w trace q w') :
    ∀ a ∈ trace, P a.call := by
  intro a ha
  obtain ⟨before, after, rfl⟩ := List.append_of_mem ha
  exact hp.of_issues (path.issues_of_append before after)

/-- As long as a program calls nothing, what events keep stays. -/
theorem Path.silent {J : ω → Prop} {p q : Program α} (path : Path E p w [] q w') (hw : J w)
    (hnote : ∀ event w, J w → J (E.note event w)) : J w' := by
  generalize htrace : ([] : List Asked) = trace at path
  induction path with
  | here p w => exact hw
  | note path ih => exact ih (hnote _ _ hw) htrace
  | ask turn path ih => cases htrace

end TenantFleet.Program
