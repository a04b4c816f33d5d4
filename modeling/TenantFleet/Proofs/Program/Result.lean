/-
# The results of a program

What a program ends with: its good results are of a kind, and when it ends with a refused
transition, one of its calls failed with that. On its way it counts no transition. All of this can
be read off the program, whatever its calls are answered.

* `Error.isRefusal` : that an error is a refused transition;
* `metering` : surroundings in which only the metrics change;
* `Program.Results` : the results of a program, with a rule for each way to build one.
-/
import TenantFleet.Proofs.Program.Trace

namespace TenantFleet

/-- Whether an error is a refused transition. -/
def Error.isRefusal : Error → Bool
  | .invalidTransition _ _ => true
  | _ => false

/-- Whether a call failed with an error. -/
def Asked.Fails (a : Asked) (e : Error) : Prop := ∃ f, a.result = .error f ∧ a.call.raise f = e

/-- Whether an event is a transition. -/
def Event.isTransition : Event → Bool
  | .transition _ _ _ => true
  | _ => false

/-- Other events count no transition. -/
theorem Metrics.transitions_record {event : Event} (h : event.isTransition = false) (m : Metrics) :
    (m.record event).transitions = m.transitions := by
  cases event with
  | transition controller source target => cases h
  | failure controller => rfl
  | termination clusterId node inst => rfl

/-- The surroundings in which a call may have every result, and the metrics take note of events. -/
def metering : Surroundings Metrics := ⟨fun _ m _ m' => m' = m, fun event m => m.record event⟩

namespace Program

variable {α β : Type} {Q : α → Prop} {R : β → Prop} {p : Program α} {next : α → Program β}

/-- Whether the good results of a program are of a kind, the refused transitions that it ends with
are those of its calls, and it counts no transition. -/
structure Results (Q : α → Prop) (p : Program α) : Prop where
  good : ∀ {trace a}, Yields p trace a → Q a
  bad : ∀ {trace e}, Path .any p () trace (done (.error e)) () → e.isRefusal = true →
    ∃ a ∈ trace, a.Fails e
  counts : ∀ {m trace q m'}, Path metering p m trace q m' → m'.transitions = m.transitions

namespace Results

/-- A good result. -/
theorem pure {a : α} (ha : Q a) : Results Q (done (.ok a)) where
  good h := by
    cases (yields_done.1 h).2
    exact ha
  bad h := by cases h
  counts h := by
    cases h
    rfl

/-- A failure that is no refused transition. -/
theorem fail {e : Error} (he : e.isRefusal = false) : Results Q (done (.error e)) where
  good h := by cases (yields_done.1 h).2
  bad h hrefusal := by
    cases h
    rw [he] at hrefusal
    cases hrefusal
  counts h := by
    cases h
    rfl

/-- Two programs in a row have the results of the second one. -/
theorem bind (hp : Results Q p) (hnext : ∀ a, Q a → Results R (next a)) :
    Results R (p.bind next) where
  good h := by
    obtain ⟨a, before, after, rfl, hfirst, hsecond⟩ := yields_bind.1 h
    exact (hnext a (hp.good hfirst)).good hsecond
  bad h hrefusal := by
    rcases h.bind_cases with ⟨rest, hrest, heq⟩ | ⟨a, _, before, after, rfl, hfirst, hsecond⟩
    · cases rest with
      | done r =>
        cases r with
        | ok a =>
          have hend : ∀ q, q = next a → Path .any (next a) () [] q () := by
            rintro _ rfl
            exact .here _ ()
          obtain ⟨x, hx, -⟩ := (hnext a (hp.good hrest)).bad (hend _ heq) hrefusal
          cases hx
        | error e =>
          cases heq
          exact hp.bad hrest hrefusal
      | note event rest => cases heq
      | ask c resume => cases heq
    · obtain ⟨x, hx, hfails⟩ := (hnext a (hp.good hfirst)).bad hsecond hrefusal
      exact ⟨x, List.mem_append_right _ hx, hfails⟩
  counts h := by
    rcases h.bind_cases with ⟨rest, hrest, -⟩ | ⟨a, m₁, before, after, rfl, hfirst, hsecond⟩
    · exact hp.counts hrest
    · exact ((hnext a (hp.good hfirst.yields)).counts hsecond).trans (hp.counts hfirst)

/-- The results behind a call are those for each of its answers, unless it failed with a refused
transition. -/
theorem ask {c : Call} {resume : Except c.Failure c.Answer → Program α}
    (hresume : ∀ r, Results Q (resume r)) : Results Q (ask c resume) where
  good h := by
    obtain ⟨r, after, rfl, hrest⟩ := yields_ask.1 h
    exact (hresume r).good hrest
  bad h hrefusal := by
    cases h with
    | ask turn h =>
      obtain ⟨x, hx, hfails⟩ := (hresume _).bad h hrefusal
      exact ⟨x, List.mem_cons_of_mem _ hx, hfails⟩
  counts h := by
    cases h with
    | here => rfl
    | ask turn h =>
      cases turn
      exact (hresume _).counts h

/-- An event changes no results. -/
theorem note {event : Event} (hevent : event.isTransition = false) (hp : Results Q p) :
    Results Q (note event p) where
  good h := by
    cases h with
    | note h => exact hp.good h
  bad h hrefusal := by
    cases h with
    | note h => exact hp.bad h hrefusal
  counts h := by
    cases h with
    | here => rfl
    | note h => exact (hp.counts h).trans (Metrics.transitions_record hevent _)

/-- A call fails as it was answered. -/
theorem call (c : Call) : Results (fun _ => True) (Program.call c) where
  good _ := trivial
  bad h _ := by
    cases h with
    | @ask _ _ _ _ _ _ r _ turn h =>
      cases r with
      | ok a => cases h
      | error f =>
        cases h
        exact ⟨_, List.mem_cons_self, f, rfl, rfl⟩
  counts h := by
    cases h with
    | here => rfl
    | ask turn h =>
      cases turn
      cases h
      rfl

theorem groupCall (g : ResourceGroup) (k : CloudCall) : Results (fun _ => True) (g.call k) :=
  call (.cloud g.account g.name k)

theorem wait (g : ResourceGroup) (operation : Operation) :
    Results (fun _ => True) (g.wait operation) :=
  groupCall g (.wait operation)

/-- Neither the cloud nor a tenant refuses transitions. -/
theorem find? (g : ResourceGroup) (k : CloudCall) : Results (fun _ => True) (g.find? k) := by
  refine .ask fun r => ?_
  cases r with
  | ok a => exact .pure trivial
  | error e =>
    dsimp only
    split
    · exact .pure trivial
    · exact .fail rfl

theorem unlessMissing (r : Except TenantError Unit) :
    Results (fun _ => True) (Tenant.unlessMissing r) := by
  cases r with
  | ok a => exact .pure trivial
  | error e =>
    unfold Tenant.unlessMissing
    dsimp only
    split
    · exact .pure trivial
    · exact .fail rfl

theorem open? (space clusterId : String) : Results (fun _ => True) (Tenant.open? space clusterId) :=
  (call _).bind fun _ _ => .pure trivial

/-- A program for each item has the results of its steps. -/
theorem forEach {l : List α} {step : α → Program Unit}
    (hstep : ∀ a, Results (fun _ => True) (step a)) :
    Results (fun _ => True) (Program.forEach l step) := by
  induction l with
  | nil => exact .pure trivial
  | cons a rest ih => exact (hstep a).bind fun _ _ => ih

end Results

end Program

end TenantFleet
