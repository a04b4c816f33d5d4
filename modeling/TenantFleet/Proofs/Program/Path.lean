/-
# The moments of a program

A call may turn out in more than one way: collaborators fail, and others change the world in the
meantime. `Surroundings` say which results a call may have in a state and which states it may leave.
The moments that a program comes to in its surroundings are its paths: what was asked so far with
the results, what is left of the program, and the state.

* `Handler.faulty` : the surroundings in which every call of a handler may fail, before or after its
  effect;
* `Program.Asks` : that a program makes no calls but those of a kind;
* `Program.Safe` : that a program keeps demands at all of its moments, by recursion on the program;
* `Program.Safe.along` : a safe program has kept its demands at every moment that a path leads to;
* `Program.Passes` and `Program.Safe.passes` : the same for programs one after the other, each of
  which may be given up at any moment.
-/
import TenantFleet.Program.Service

namespace TenantFleet

/-! ## Surroundings -/

/-- A call with its result. -/
structure Asked where
  /-- The call. -/
  call : Call
  /-- What came back. -/
  result : Except call.Failure call.Answer

/-- What a program works in. -/
structure Surroundings (ω : Type) where
  /-- Whether a call in a state may have a result and leave a state. -/
  answers : (c : Call) → ω → Except c.Failure c.Answer → ω → Prop
  /-- The state after an event. -/
  note : Event → ω → ω

/-- Surroundings in which every call may have every result. -/
def Surroundings.any : Surroundings Unit := ⟨fun _ _ _ _ => True, fun _ w => w⟩

/-- Surroundings in which others may change the state before each call. -/
def Surroundings.amid {ω : Type} (E : Surroundings ω) (moves : ω → ω → Prop) : Surroundings ω where
  answers c w r w' := ∃ w₁, moves w w₁ ∧ E.answers c w₁ r w'
  note := E.note

namespace Handler

variable {ω γ : Type}

/-- The handler with a second state beside its own, which follows the calls and their results. -/
def watch (h : Handler ω) (follow : (c : Call) → ω → Except c.Failure c.Answer → γ → γ) :
    Handler (ω × γ) where
  answer c w := ((h.answer c w.1).1, (h.answer c w.1).2, follow c w.1 (h.answer c w.1).1 w.2)
  note event w := (h.note event w.1, w.2)

/-- How a call may turn out when everything may fail. -/
inductive Turns (h : Handler ω) (c : Call) (w : ω) : Except c.Failure c.Answer → ω → Prop
  /-- The call is answered. -/
  | answered : Turns h c w (h.answer c w).1 (h.answer c w).2
  /-- The call fails before its effect. -/
  | lost (e : c.Failure) : Turns h c w (.error e) w
  /-- The call has its effect, but fails. -/
  | cut (e : c.Failure) : Turns h c w (.error e) (h.answer c w).2

/-- A call is answered, or it fails with or without its effect. -/
theorem Turns.cases {h : Handler ω} {c : Call} {w w' : ω} {r : Except c.Failure c.Answer}
    (turn : h.Turns c w r w') :
    (r = (h.answer c w).1 ∧ w' = (h.answer c w).2) ∨
      (∃ e, r = .error e) ∧ (w' = w ∨ w' = (h.answer c w).2) := by
  cases turn with
  | answered => exact Or.inl ⟨rfl, rfl⟩
  | lost e => exact Or.inr ⟨⟨e, rfl⟩, Or.inl rfl⟩
  | cut e => exact Or.inr ⟨⟨e, rfl⟩, Or.inr rfl⟩

/-- The surroundings in which every call may fail. -/
def faulty (h : Handler ω) : Surroundings ω := ⟨h.Turns, h.note⟩

end Handler

/-! ## Paths -/

namespace Program

variable {α β ω : Type}

/-- The moments of a program: what it has asked so far, what is left of it, and the state. -/
inductive Path (E : Surroundings ω) : Program α → ω → List Asked → Program α → ω → Prop
  /-- Nothing was done yet. -/
  | here (p : Program α) (w : ω) : Path E p w [] p w
  /-- An event was noted first. -/
  | note {event : Event} {rest q : Program α} {w w' : ω} {trace : List Asked}
      (path : Path E rest (E.note event w) trace q w') : Path E (.note event rest) w trace q w'
  /-- A call was made first. -/
  | ask {c : Call} {resume : Except c.Failure c.Answer → Program α} {q : Program α} {w w₁ w' : ω}
      {r : Except c.Failure c.Answer} {trace : List Asked} (turn : E.answers c w r w₁)
      (path : Path E (resume r) w₁ trace q w') : Path E (.ask c resume) w (⟨c, r⟩ :: trace) q w'

namespace Path

variable {E : Surroundings ω}

/-- The moments of the first of two programs in a row. -/
theorem first {p q : Program α} {next : α → Program β} {w w' : ω} {trace : List Asked}
    (path : Path E p w trace q w') : Path E (p.bind next) w trace (q.bind next) w' := by
  induction path with
  | here p w => exact .here _ w
  | note path ih => exact .note ih
  | ask turn path ih => exact .ask turn ih

/-- The moments of the second of two programs in a row, after a good end of the first one. -/
theorem second {p : Program α} {q : Program β} {next : α → Program β} {a : α} {w w' w'' : ω}
    {trace trace' : List Asked} (path : Path E p w trace (done (.ok a)) w')
    (path' : Path E (next a) w' trace' q w'') : Path E (p.bind next) w (trace ++ trace') q w'' := by
  generalize hend : (done (.ok a) : Program α) = e at path
  induction path with
  | here p w =>
    subst hend
    exact path'
  | note path ih => exact .note (ih path' hend)
  | ask turn path ih => exact .ask turn (ih path' hend)

/-- Where every call may have every result, a program may go on with any. -/
theorem askAny {c : Call} {resume : Except c.Failure c.Answer → Program α} {q : Program α}
    {r : Except c.Failure c.Answer} {trace : List Asked}
    (path : Path .any (resume r) () trace q ()) :
    Path .any (.ask c resume) () (⟨c, r⟩ :: trace) q () :=
  .ask trivial path

end Path

/-- The moments of programs of a kind, one after the other; each of them may be given up at
any moment. -/
inductive Passes (E : Surroundings ω) (pass : Program α → Prop) :
    ω → List Asked → Program α → ω → Prop
  /-- A moment of the first program. -/
  | first {p q : Program α} {w w' : ω} {trace : List Asked} (hp : pass p)
    (path : Path E p w trace q w') :
    Passes E pass w trace q w'
  /-- A moment of the next program, whatever was left of the one before. -/
  | next {p q q' : Program α} {w w' w'' : ω} {asked trace : List Asked}
    (before : Passes E pass w asked q w')
    (hp : pass p) (path : Path E p w' trace q' w'') : Passes E pass w (asked ++ trace) q' w''

/-- A program in a world after a number of calls: what it asked, what is left of it, and
the world. -/
def advance (h : Handler ω) : Nat → Program α → ω → List Asked × Program α × ω
  | n, note event rest, w => advance h n rest (h.note event w)
  | n + 1, ask c resume, w =>
    let (trace, q, w') := advance h n (resume (h.answer c w).1) (h.answer c w).2
    (⟨c, (h.answer c w).1⟩ :: trace, q, w')
  | 0, ask c resume, w => ([], ask c resume, w)
  | _, done r, w => ([], done r, w)

/-- A program comes through all moments of its run, in surroundings where calls may be
answered so. -/
theorem path_advance {E : Surroundings ω} {h : Handler ω}
    (hanswer : ∀ c w, E.answers c w (h.answer c w).1 (h.answer c w).2) (hnote : E.note = h.note)
    (n : Nat) (p : Program α) (w : ω) :
    Path E p w (advance h n p w).1 (advance h n p w).2.1 (advance h n p w).2.2 := by
  induction p generalizing n w with
  | done r =>
    cases n <;> exact Path.here _ w
  | note event rest ih =>
    have path := ih n (h.note event w)
    cases n <;> exact Path.note (by rw [hnote]; exact path)
  | ask c resume ih =>
    cases n with
    | zero => exact Path.here _ w
    | succ n => exact Path.ask (hanswer c w) (ih _ n _)

/-- A program comes to the end of its run, in surroundings where calls may be answered so. -/
theorem path_run {E : Surroundings ω} {h : Handler ω}
    (hanswer : ∀ c w, E.answers c w (h.answer c w).1 (h.answer c w).2) (hnote : E.note = h.note)
    (p : Program α) (w : ω) : ∃ trace, Path E p w trace (done (run h p w).1) (run h p w).2 := by
  induction p generalizing w with
  | done r => exact ⟨[], Path.here _ w⟩
  | note event rest ih =>
    obtain ⟨trace, path⟩ := ih (h.note event w)
    exact ⟨trace, Path.note (by rw [hnote]; exact path)⟩
  | ask c resume ih =>
    obtain ⟨trace, path⟩ := ih (h.answer c w).1 (h.answer c w).2
    exact ⟨⟨c, (h.answer c w).1⟩ :: trace, Path.ask (hanswer c w) path⟩

/-- The next call of a program, if it is about to make one. -/
def next? : Program α → Option Call
  | ask c _ => some c
  | _ => none

/-- The result of a program that has ended. -/
def result? : Program α → Option (Except Error α)
  | done r => some r
  | _ => none

/-- A program with a result has ended. -/
theorem eq_done_of_result? {p : Program α} {r : Except Error α}
    (h : p.result? = some r) : p = done r := by
  cases p with
  | done r' =>
    cases h
    rfl
  | note event rest => cases h
  | ask c resume => cases h

/-! ## Calls of a program -/

/-- Whether every call of a program is of a kind, whatever was answered before. -/
def Asks (P : Call → Prop) : Program α → Prop
  | done _ => True
  | note _ rest => Asks P rest
  | ask c resume => P c ∧ ∀ r, Asks P (resume r)

namespace Asks

variable {P : Call → Prop}

theorem bind {p : Program α} {next : α → Program β} (hp : Asks P p) (hnext : ∀ a, Asks P (next a)) :
    Asks P (p.bind next) := by
  induction p with
  | done r =>
    cases r with
    | ok a => exact hnext a
    | error e => trivial
  | note event rest ih => exact ih hp
  | ask c resume ih => exact ⟨hp.1, fun r => ih r (hp.2 r)⟩

theorem call {c : Call} (hc : P c) : Asks P (Program.call c) := ⟨hc, fun _ => trivial⟩

theorem attempt {c : Call} (hc : P c) : Asks P (Program.attempt c) := ⟨hc, fun _ => trivial⟩

theorem groupCall {g : ResourceGroup} {c : CloudCall} (hc : P (.cloud g.account g.name c)) :
    Asks P (g.call c) := call hc

theorem forEach {l : List α} {step : α → Program Unit} (hstep : ∀ a, Asks P (step a)) :
    Asks P (Program.forEach l step) := by
  induction l with
  | nil => trivial
  | cons a rest ih => exact (hstep a).bind fun _ => ih

theorem mono {Q : Call → Prop} {p : Program α} (hp : Asks P p) (h : ∀ c, P c → Q c) : Asks Q p := by
  induction p with
  | done r => trivial
  | note event rest ih => exact ih hp
  | ask c resume ih => exact ⟨h c hp.1, fun r => ih r (hp.2 r)⟩

theorem find? {g : ResourceGroup} {c : CloudCall} (hc : P (.cloud g.account g.name c)) :
    Asks P (g.find? c) := by
  refine ⟨hc, fun r => ?_⟩
  cases r with
  | ok a => trivial
  | error e =>
    dsimp only
    split <;> trivial

end Asks

/-! ## Demands -/

/-- What is demanded of a program on its way, given what was asked so far. -/
structure Demand (ω : Type) where
  /-- What holds at every moment. -/
  always : List Asked → ω → Prop
  /-- What holds when a call is made. -/
  issue : List Asked → ω → Call → Prop

/-- Nothing is demanded but how a program ends. -/
def Demand.none : Demand ω := ⟨fun _ _ => True, fun _ _ _ => True⟩

/-- Whether a program keeps the demands at all moments from now on, and ends as it should. -/
def Safe (E : Surroundings ω) (D : Demand ω) (Q : List Asked → ω → Except Error α → Prop) :
    Program α → List Asked → ω → Prop
  | done r, asked, w => D.always asked w ∧ Q asked w r
  | note event rest, asked, w => D.always asked w ∧ Safe E D Q rest asked (E.note event w)
  | ask c resume, asked, w =>
    D.always asked w ∧ D.issue asked w c ∧
      ∀ r w', E.answers c w r w' → Safe E D Q (resume r) (asked ++ [⟨c, r⟩]) w'

variable {E : Surroundings ω} {D : Demand ω} {Q Q' : List Asked → ω → Except Error α → Prop}

namespace Safe

/-- The demands hold at the first moment. -/
theorem always {p : Program α} {asked : List Asked} {w : ω} (hs : Safe E D Q p asked w) :
    D.always asked w := by
  cases p with
  | done r => exact hs.1
  | note event rest => exact hs.1
  | ask c resume => exact hs.1

/-- A program that is safe stays so along its paths. -/
theorem along {p q : Program α} {asked trace : List Asked} {w w' : ω} (hs : Safe E D Q p asked w)
    (path : Path E p w trace q w') : Safe E D Q q (asked ++ trace) w' := by
  induction path generalizing asked with
  | here p w => simpa using hs
  | note path ih => exact ih hs.2
  | ask turn path ih =>
    have := ih (hs.2.2 _ _ turn)
    simpa using this

/-- A weaker end is reached as well. -/
theorem mono {p : Program α} {asked : List Asked} {w : ω} (hs : Safe E D Q p asked w)
    (hQ : ∀ asked w r, D.always asked w → Q asked w r → Q' asked w r) : Safe E D Q' p asked w := by
  induction p generalizing asked w with
  | done r => exact ⟨hs.1, hQ _ _ _ hs.1 hs.2⟩
  | note event rest ih => exact ⟨hs.1, ih hs.2⟩
  | ask c resume ih => exact ⟨hs.1, hs.2.1, fun r w' turn => ih r (hs.2.2 r w' turn)⟩

/-- Two programs in a row are safe when the first one ends well only where the second one
is safe. -/
theorem bind {p : Program α} {next : α → Program β} {R : List Asked → ω → Except Error β → Prop}
    {asked : List Asked} {w : ω} (hs : Safe E D Q p asked w)
    (hok : ∀ asked w a, D.always asked w → Q asked w (.ok a) → Safe E D R (next a) asked w)
    (herror : ∀ asked w e, D.always asked w → Q asked w (.error e) → R asked w (.error e)) :
    Safe E D R (p.bind next) asked w := by
  induction p generalizing asked w with
  | done r =>
    cases r with
    | ok a => exact hok _ _ a hs.1 hs.2
    | error e => exact ⟨hs.1, herror _ _ e hs.1 hs.2⟩
  | note event rest ih => exact ⟨hs.1, ih hs.2⟩
  | ask c resume ih => exact ⟨hs.1, hs.2.1, fun r w' turn => ih r (hs.2.2 r w' turn)⟩

/-- What holds when a program ends well, and when it does not. -/
def Ends (Q : List Asked → ω → α → Prop) (F : List Asked → ω → Prop) (asked : List Asked) (w : ω) :
    Except Error α → Prop
  | .ok a => Q asked w a
  | .error _ => F asked w

/-- What holds when a program ends well. -/
abbrev Well (Q : List Asked → ω → α → Prop) : List Asked → ω → Except Error α → Prop :=
  Ends Q fun _ _ => True

/-- Two programs in a row are safe when the second one is after a good end of the first one. -/
theorem andThen {p : Program α} {next : α → Program β} {Q : List Asked → ω → α → Prop}
    {R : List Asked → ω → β → Prop} {F : List Asked → ω → Prop} {asked : List Asked} {w : ω}
    (hs : Safe E D (Ends Q F) p asked w)
    (hnext : ∀ asked w a, D.always asked w → Q asked w a → Safe E D (Ends R F) (next a) asked w) :
    Safe E D (Ends R F) (p.bind next) asked w :=
  hs.bind hnext fun _ _ _ _ h => h

/-- A result is good when it has what is asked of it. -/
theorem pure {a : α} {Q : List Asked → ω → α → Prop} {F : List Asked → ω → Prop}
    {asked : List Asked} {w : ω} (halways : D.always asked w) (hQ : Q asked w a) :
    Safe E D (Ends Q F) (done (.ok a)) asked w :=
  ⟨halways, hQ⟩

/-- A call whose failure ends the program. -/
theorem callEnds {c : Call} {Q : List Asked → ω → c.Answer → Prop} {F : List Asked → ω → Prop}
    {asked : List Asked} {w : ω} (halways : D.always asked w) (hissue : D.issue asked w c)
    (hturn : ∀ r w', E.answers c w r w' → D.always (asked ++ [⟨c, r⟩]) w' ∧
      (∀ a, r = .ok a → Q (asked ++ [⟨c, r⟩]) w' a) ∧ ∀ e, r = .error e →
        F (asked ++ [⟨c, r⟩]) w') :
    Safe E D (Ends Q F) (Program.call c) asked w := by
  refine ⟨halways, hissue, fun r w' turn => ?_⟩
  obtain ⟨hnow, hok, herror⟩ := hturn r w' turn
  refine ⟨hnow, ?_⟩
  cases r with
  | ok a => exact hok a rfl
  | error e => exact herror e rfl

/-- A call whose failure ends the program, when nothing is asked of that end. -/
theorem call {c : Call} {Q : List Asked → ω → c.Answer → Prop} {asked : List Asked} {w : ω}
    (halways : D.always asked w) (hissue : D.issue asked w c)
    (hturn : ∀ r w', E.answers c w r w' → D.always (asked ++ [⟨c, r⟩]) w' ∧
      ∀ a, r = .ok a → Q (asked ++ [⟨c, r⟩]) w' a) :
    Safe E D (Well Q) (Program.call c) asked w :=
  callEnds halways hissue fun r w' turn =>
    ⟨(hturn r w' turn).1, (hturn r w' turn).2, fun _ _ => trivial⟩

/-- A call whose result is looked at. -/
theorem attempt {c : Call} {Q : List Asked → ω → Except c.Failure c.Answer → Prop}
    {F : List Asked → ω → Prop} {asked : List Asked} {w : ω} (halways : D.always asked w)
    (hissue : D.issue asked w c)
    (hturn : ∀ r w', E.answers c w r w' → D.always (asked ++ [⟨c, r⟩]) w' ∧
      Q (asked ++ [⟨c, r⟩]) w' r) :
    Safe E D (Ends Q F) (Program.attempt c) asked w :=
  ⟨halways, hissue, fun r w' turn => hturn r w' turn⟩

/-- A result that is given back, or ends the program. -/
theorem ofExcept {r : Except Error α} {Q : List Asked → ω → α → Prop} {F : List Asked → ω → Prop}
    {asked : List Asked} {w : ω} (halways : D.always asked w) (hok : ∀ a, r = .ok a → Q asked w a)
    (herror : ∀ e, r = .error e → F asked w) :
    Safe E D (Ends Q F) (Program.ofExcept r) asked w := by
  refine ⟨halways, ?_⟩
  cases r with
  | ok a => exact hok a rfl
  | error e => exact herror e rfl

/-- A request for a resource that may be missing; another failure ends the program. -/
theorem findEnds {g : ResourceGroup} {c : CloudCall} {Q : List Asked → ω → Option c.Answer → Prop}
    {F : List Asked → ω → Prop} {asked : List Asked} {w : ω} (halways : D.always asked w)
    (hissue : D.issue asked w (.cloud g.account g.name c))
    (hturn : ∀ (r : Except AzureError c.Answer) w', E.answers (.cloud g.account g.name c) w r w' →
      D.always (asked ++ [⟨.cloud g.account g.name c, r⟩]) w' ∧
        (∀ a, r = .ok a → Q (asked ++ [⟨.cloud g.account g.name c, r⟩]) w' (some a)) ∧
        ∀ e, r = .error e →
          if e.isNotFound then Q (asked ++ [⟨.cloud g.account g.name c, r⟩]) w' none
          else F (asked ++ [⟨.cloud g.account g.name c, r⟩]) w') :
    Safe E D (Ends Q F) (g.find? c) asked w := by
  refine ⟨halways, hissue, fun r w' turn => ?_⟩
  obtain ⟨hnow, hok, herror⟩ := hturn r w' turn
  cases r with
  | ok a => exact pure hnow (hok a rfl)
  | error e =>
    have hend := herror e rfl
    dsimp only
    split at hend
    · rename_i hmissing
      rw [if_pos hmissing]
      exact pure hnow hend
    · rename_i hmissing
      rw [if_neg hmissing]
      exact ⟨hnow, hend⟩

/-- The same when nothing is asked of that end: the resource is taken to be missing only when the
request failed. -/
theorem find? {g : ResourceGroup} {c : CloudCall} {Q : List Asked → ω → Option c.Answer → Prop}
    {asked : List Asked} {w : ω} (halways : D.always asked w)
    (hissue : D.issue asked w (.cloud g.account g.name c))
    (hturn : ∀ (r : Except AzureError c.Answer) w', E.answers (.cloud g.account g.name c) w r w' →
      D.always (asked ++ [⟨.cloud g.account g.name c, r⟩]) w' ∧
        (∀ a, r = .ok a → Q (asked ++ [⟨.cloud g.account g.name c, r⟩]) w' (some a)) ∧
        ∀ e, r = .error e → Q (asked ++ [⟨.cloud g.account g.name c, r⟩]) w' none) :
    Safe E D (Well Q) (g.find? c) asked w := by
  refine findEnds halways hissue fun r w' turn => ?_
  obtain ⟨hnow, hok, herror⟩ := hturn r w' turn
  refine ⟨hnow, hok, fun e hr => ?_⟩
  split
  · exact herror e hr
  · trivial

/-- A program for each item of a list is safe when each of them keeps what the next one needs, given
those that came before. -/
theorem forEachFrom {step : α → Program Unit} (before : List α) {l : List α}
    {I : List α → List Asked → ω → Prop} {F : List Asked → ω → Prop} {asked : List Asked} {w : ω}
    (hI : I before asked w) (halways : D.always asked w)
    (hstep : ∀ first a rest, before ++ l = first ++ a :: rest → ∀ asked w, D.always asked w →
      I first asked w →
      Safe E D (Ends (fun asked w _ => I (first ++ [a]) asked w) F) (step a) asked w) :
    Safe E D (Ends (fun asked w _ => I (before ++ l) asked w) F)
      (Program.forEach l step) asked w := by
  induction l generalizing before asked w with
  | nil =>
    rw [List.append_nil]
    exact pure halways hI
  | cons a rest ih =>
    refine (hstep before a rest rfl asked w halways hI).andThen ?_
    intro asked w _ halways hI
    have hsplit : before ++ a :: rest = before ++ [a] ++ rest := by
      rw [List.append_assoc, List.singleton_append]
    rw [hsplit]
    refine ih _ hI halways ?_
    rw [← hsplit]
    exact hstep

/-- The same when what is needed does not depend on those that came before. -/
theorem forEach {step : α → Program Unit} {l : List α} {I : List Asked → ω → Prop}
    {F : List Asked → ω → Prop} {asked : List Asked} {w : ω} (hI : I asked w)
    (halways : D.always asked w)
    (hstep : ∀ a ∈ l, ∀ asked w, D.always asked w → I asked w →
      Safe E D (Ends (fun asked w _ => I asked w) F) (step a) asked w) :
    Safe E D (Ends (fun asked w _ => I asked w) F) (Program.forEach l step) asked w := by
  refine forEachFrom (I := fun _ => I) [] hI halways ?_
  intro first a rest hl
  refine hstep a ?_
  have hmem : a ∈ first ++ a :: rest := List.mem_append_right _ List.mem_cons_self
  rwa [← hl] at hmem

/-- A program that makes only calls of a kind is safe when these keep an invariant that the demands
follow from; the invariant holds at every end. -/
theorem of_asksEnds {P : Call → Prop} {I : List Asked → ω → Prop} {p : Program α}
    {asked : List Asked}
    {w : ω} (hp : Asks P p) (hI : I asked w) (halways : ∀ asked w, I asked w → D.always asked w)
    (hissue : ∀ asked w c, P c → I asked w → D.issue asked w c)
    (hnote : ∀ asked w event, I asked w → I asked (E.note event w))
    (hstep : ∀ asked w c r w', P c → I asked w → E.answers c w r w' → I (asked ++ [⟨c, r⟩]) w') :
    Safe E D (Ends (fun asked w _ => I asked w) I) p asked w := by
  induction p generalizing asked w with
  | done r =>
    refine ⟨halways _ _ hI, ?_⟩
    cases r with
    | ok a => exact hI
    | error e => exact hI
  | note event rest ih => exact ⟨halways _ _ hI, ih hp (hnote _ _ event hI)⟩
  | ask c resume ih =>
    refine ⟨halways _ _ hI, hissue _ _ c hp.1 hI, ?_⟩
    intro r w' turn
    exact ih r (hp.2 r) (hstep _ _ c r w' hp.1 hI turn)

/-- The same when nothing is asked of a bad end. -/
theorem of_asks {P : Call → Prop} {I : List Asked → ω → Prop} {p : Program α} {asked : List Asked}
    {w : ω} (hp : Asks P p) (hI : I asked w) (halways : ∀ asked w, I asked w → D.always asked w)
    (hissue : ∀ asked w c, P c → I asked w → D.issue asked w c)
    (hnote : ∀ asked w event, I asked w → I asked (E.note event w))
    (hstep : ∀ asked w c r w', P c → I asked w → E.answers c w r w' → I (asked ++ [⟨c, r⟩]) w') :
    Safe E D (Well fun asked w _ => I asked w) p asked w := by
  refine (of_asksEnds hp hI halways hissue hnote hstep).mono ?_
  rintro _ _ (e | a) _ h
  · trivial
  · exact h

/-- Programs that are safe wherever the demands hold are safe at every moment of their passes. -/
theorem passes {pass : Program α → Prop}
    (hpass : ∀ p, pass p → ∀ asked w, D.always asked w → Safe E D Q p asked w) {q : Program α}
    {asked : List Asked} {w w' : ω} (hw : D.always [] w) (moment : Passes E pass w asked q w') :
    Safe E D Q q asked w' := by
  induction moment with
  | first hp path => exact (hpass _ hp [] _ hw).along path
  | next before hp path ih => exact (hpass _ hp _ _ (ih hw).always).along path

end Safe

end Program

end TenantFleet
