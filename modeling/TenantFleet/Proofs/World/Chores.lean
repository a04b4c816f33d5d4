/-
# Chores

The stages that go through a list make one call for each of its items: they ask for a node to be
drained, withdraw such a request, or close a node for new work. Each of these chores may have been
seen to before, and then it leaves the world as it is. So a chore that was seen to can be done
again, or be left out.

* `Chore`, `Chore.program`, `Chore.apply` : a chore, the program that sees to it, and what it does;
* `Deed`, `Deed.over`, `deeds` : what a chore may achieve, when there is nothing to achieve any
  more, and what a list of chores achieves;
* `Program.achieved`, `Program.attempts` : what a run achieves, and how many of its calls are to;
* `run_chores`, `run_chores_cut` : a list of chores is done, or is cut off at the first call that
  fails;
* `World.Spares`, `spares_after` : a world is left as it is outside the deeds;
* `Lasting` : that what a list of chores achieves is not undone by it, so `Lasting.resume` : a list
  that was cut off can be done again from the start, and `Lasting.nodup_deeds` : nothing is achieved
  twice.
-/
import TenantFleet.Masters.Backup
import TenantFleet.Proofs.Data.Dict
import TenantFleet.Proofs.Program.Cut
import TenantFleet.Proofs.World.Unlogged

namespace TenantFleet

open Program

/-! ## Deeds -/

/-- What a pass may achieve for a drain request or a node. -/
inductive Deed
  /-- A drain request was created. -/
  | created (space name : String)
  /-- A drain request was deleted. -/
  | deleted (space name : String)
  /-- A node was closed for new work. -/
  | cordoned (node : String)
  deriving DecidableEq

/-- Whether there is nothing to achieve: the request exists already, or has gone, or the node
has. -/
def Deed.over : Deed → World → Bool
  | created space name, w => (Table.at? w.drains space name).isSome
  | deleted space name, w => (Table.at? w.drains space name).isNone
  | cordoned node, w => (w.nodes.get? node).isNone

/-- What a call achieves when it succeeds. -/
def Call.deed? : Call → Option Deed
  | .createDrain d => some (.created d.metadata.spaceName (d.metadata.name.getD ""))
  | .deleteDrain space name => some (.deleted space name)
  | .tenant _ _ (.cordonNode node) => some (.cordoned node)
  | _ => none

/-- What a call has achieved. -/
def Asked.deed? (a : Asked) : Option Deed := if a.result.toBool then a.call.deed? else none

/-- The failure of a call that creates or deletes a drain request or closes a node; other calls do
not fail. -/
def Call.refusal (e : TenantError) : (c : Call) → Option c.Failure
  | .createDrain _ | .deleteDrain _ _ | .tenant _ _ (.cordonNode _) => some e
  | _ => none

/-- A call that achieves nothing does not fail so. -/
theorem Call.refusal_eq_none {c : Call} (hc : c.deed? = none) (e : TenantError) :
    c.refusal e = none := by
  cases c with
  | createDrain d => cases hc
  | deleteDrain space name => cases hc
  | tenant space clusterId k =>
    cases k with
    | cordonNode node => cases hc
    | listNodes selector => rfl
    | deleteNode node => rfl
  | _ => rfl

/-- What a run achieves, in order. -/
def Program.achieved {α ω : Type} (h : Handler ω) (p : Program α) (w : ω) : List Deed :=
  (asked h p w).filterMap Asked.deed?

/-- The number of calls of a run that are to achieve something. -/
def Program.attempts {α ω : Type} (h : Handler ω) (p : Program α) (w : ω) : Nat :=
  (asked h p w).countP fun a => a.call.deed?.isSome

section Achieved

variable {α β ω : Type} {h : Handler ω} {p : Program α} {s s' : ω}

/-- What two programs in a row achieve, when the first one comes to a good end. -/
theorem Program.achieved_bind_of_ok {a : α} (hp : run h p s = (.ok a, s')) (next : α → Program β) :
    achieved h (p.bind next) s = achieved h p s ++ achieved h (next a) s' ∧
      attempts h (p.bind next) s = attempts h p s + attempts h (next a) s' := by
  unfold achieved attempts
  rw [asked_bind_of_ok hp]
  exact ⟨List.filterMap_append, List.countP_append⟩

/-- What two programs in a row achieve, when the first one comes to a bad end. -/
theorem Program.achieved_bind_of_error {e : Error} (hp : run h p s = (.error e, s'))
    (next : α → Program β) :
    achieved h (p.bind next) s = achieved h p s ∧ attempts h (p.bind next) s = attempts h p s := by
  unfold achieved attempts
  rw [asked_bind_of_error hp]
  exact ⟨rfl, rfl⟩

/-- A program without calls that achieve anything achieves nothing. -/
theorem Program.achieved_of_asks (hp : Asks (fun c => c.deed? = none) p) (h : Handler ω) (s : ω) :
    achieved h p s = [] ∧ attempts h p s = 0 := by
  have hnone : ∀ a ∈ asked h p s, a.call.deed? = none := hp.asked h s
  constructor
  · refine List.filterMap_eq_nil_iff.2 fun a ha => ?_
    rw [Asked.deed?, hnone a ha, ite_self]
  · refine List.countP_eq_zero.2 fun a ha => ?_
    rw [hnone a ha]
    exact Bool.false_ne_true

/-- Runs under handlers that answer alike achieve the same. -/
theorem Handler.Sims.achieved {υ : Type} {h' : Handler υ} {R : ω → υ → Prop} {u : υ}
    (hs : Handler.Sims h h' R) (hR : R s u) (p : Program α) :
    Program.achieved h p s = Program.achieved h' p u ∧
    Program.attempts h p s = Program.attempts h' p u := by
  unfold Program.achieved Program.attempts
  rw [hs.asked hR p]
  exact ⟨rfl, rfl⟩

end Achieved

/-! ## Chores -/

/-- What a stage sees to, item by item. -/
inductive Chore
  /-- A drain request is to be created. -/
  | request (d : DrainerConfig)
  /-- A drain request is to be deleted. -/
  | withdraw (space name : String)
  /-- A node is to be closed for new work. -/
  | cordon (t : Tenant) (node : String)

namespace Chore

/-- The call that a chore is done with. -/
def call : Chore → Call
  | request d => .createDrain d
  | withdraw space name => .deleteDrain space name
  | cordon t node => .tenant t.space t.clusterId (.cordonNode node)

/-- What the end of the call means for the pass, given that the chore may have been over. -/
def verdict : (x : Chore) → Except x.call.Failure x.call.Answer → Except Error Unit
  | request _, .ok _ | withdraw _ _, .ok _ | cordon _ _, .ok _ => .ok ()
  | request _, .error e => if e.isAlreadyExists then .ok () else .error (.tenant e)
  | withdraw _ _, .error e | cordon _ _, .error e =>
    if e.isNotFound then .ok () else .error (.tenant e)

/-- The program that sees to a chore. -/
def program (x : Chore) : Program Unit := .ask x.call fun r => .done (x.verdict r)

/-- What a chore is to achieve. -/
def deed : Chore → Deed
  | request d => .created d.metadata.spaceName (d.metadata.name.getD "")
  | withdraw space name => .deleted space name
  | cordon _ node => .cordoned node

/-- The world after a chore. -/
def apply (x : Chore) (w : World) : World := (World.effect x.call w).2

variable {x y : Chore} {w : World} {e : TenantError}

/-- A chore that is over changes nothing. -/
theorem apply_of_over (hx : x.deed.over w = true) : x.apply w = w := by
  cases x with
  | request d =>
    obtain ⟨_, hd⟩ := Option.isSome_iff_exists.1 hx
    simp only [apply, call, World.effect, World.perform, World.createDrain, hd]
  | withdraw space name =>
    have hnone := Option.isNone_iff_eq_none.1 hx
    simp only [apply, call, World.effect, World.perform, World.deleteDrain, hnone]
  | cordon t node =>
    have hnone := Option.isNone_iff_eq_none.1 hx
    simp only [apply, call, World.effect, World.perform, World.performTenant, hnone]

/-- A drain request that does not exist is created. -/
theorem apply_request {d : DrainerConfig}
    (hd : Table.at? w.drains d.metadata.spaceName (d.metadata.name.getD "") = none) :
    (request d).apply w =
      { w with drains := Table.put w.drains d.metadata.spaceName (d.metadata.name.getD "") d } := by
  simp only [apply, call, World.effect, World.perform, World.createDrain, hd]

/-- A drain request that exists is deleted. -/
theorem apply_withdraw {space name : String} {d : DrainerConfig}
    (hd : Table.at? w.drains space name = some d) : (withdraw space name).apply w =
      { w with
        drains := Table.remove w.drains space name
        deletedDrains := w.deletedDrains ++ [space ++ "/" ++ name] } := by
  simp only [apply, call, World.effect, World.perform, World.deleteDrain, hd]

/-- A node that exists is closed. -/
theorem apply_cordon {t : Tenant} {node : String} {n : Node} (hn : w.nodes.get? node = some n) :
    (cordon t node).apply w =
      { w with nodes := w.nodes.insert node n.cordon, cordoned := w.cordoned ++ [node] } := by
  simp only [apply, call, World.effect, World.perform, World.performTenant, hn]

/-- The call of a chore succeeds unless it is over. -/
theorem toBool_effect (x : Chore) (w : World) :
    (World.effect x.call w).1.toBool = !x.deed.over w := by
  cases x with
  | request d =>
    simp only [call, deed, Deed.over, World.effect, World.perform, World.createDrain]
    cases Table.at? w.drains d.metadata.spaceName (d.metadata.name.getD "") <;> rfl
  | withdraw space name =>
    simp only [call, deed, Deed.over, World.effect, World.perform, World.deleteDrain]
    cases Table.at? w.drains space name <;> rfl
  | cordon t node =>
    simp only [call, deed, Deed.over, World.effect, World.perform, World.performTenant]
    cases w.nodes.get? node <;> rfl

/-- The call of a chore is to achieve what the chore is. -/
theorem deed?_call (x : Chore) : x.call.deed? = some x.deed := by
  cases x <;> rfl

/-- The call of a chore comes to a good end, also when it is over. -/
theorem verdict_effect (x : Chore) (w : World) : x.verdict (World.effect x.call w).1 = .ok () := by
  cases x with
  | request d =>
    simp only [call, World.effect, World.perform, World.createDrain]
    cases Table.at? w.drains d.metadata.spaceName (d.metadata.name.getD "") <;> rfl
  | withdraw space name =>
    simp only [call, World.effect, World.perform, World.deleteDrain]
    cases Table.at? w.drains space name <;> rfl
  | cordon t node =>
    simp only [call, World.effect, World.perform, World.performTenant]
    cases w.nodes.get? node <;> rfl

/-- The call of a chore can be refused, and then the pass fails. -/
theorem exists_refusal (he : e.isNotFound = false) (he' : e.isAlreadyExists = false) (x : Chore) :
    ∃ f, x.call.refusal e = some f ∧ x.verdict (.error f) = .error (.tenant e) := by
  cases x with
  | request d => exact ⟨e, rfl, by simp [verdict, he']⟩
  | withdraw space name => exact ⟨e, rfl, by simp [verdict, he]⟩
  | cordon t node => exact ⟨e, rfl, by simp [verdict, he]⟩

/-! ## Lists of chores -/

variable {l : List Chore}

/-- The world after chores. -/
def after (l : List Chore) (w : World) : World := l.foldl (fun w x => x.apply w) w

/-- What chores achieve, one after the other. -/
def deeds : List Chore → World → List Deed
  | [], _ => []
  | x :: rest, w => (if x.deed.over w then [] else [x.deed]) ++ deeds rest (x.apply w)

/-- The world after chores and more chores. -/
theorem after_append (l m : List Chore) (w : World) : after (l ++ m) w = after m (after l w) :=
  List.foldl_append

/-- What chores and more chores achieve. -/
theorem deeds_append (l m : List Chore) (w : World) :
    deeds (l ++ m) w = deeds l w ++ deeds m (after l w) := by
  induction l generalizing w with
  | nil => rfl
  | cons x rest ih =>
    show (if x.deed.over w then [] else [x.deed]) ++ deeds (rest ++ m) (x.apply w) = _
    rw [ih, ← List.append_assoc]
    rfl

section Handled

variable {ω : Type} {h : Handler ω} {s : ω} {rest : List Chore}

/-- Chores go on when the call for the first one came to a good end. -/
theorem run_cons_of_ok (hx : x.verdict (h.answer x.call s).1 = .ok ()) :
    run h (forEach (x :: rest) program) s = run h (forEach rest program) (h.answer x.call s).2 := by
  show run h ((done (x.verdict (h.answer x.call s).1)).bind _) _ = _
  rw [hx]
  rfl

/-- Chores end when the call for the first one did not. -/
theorem run_cons_of_error {f : Error} (hx : x.verdict (h.answer x.call s).1 = .error f) :
    run h (forEach (x :: rest) program) s = (.error f, (h.answer x.call s).2) := by
  show run h ((done (x.verdict (h.answer x.call s).1)).bind _) _ = _
  rw [hx]
  rfl

/-- The calls for chores that go on. -/
theorem asked_cons_of_ok (hx : x.verdict (h.answer x.call s).1 = .ok ()) :
    asked h (forEach (x :: rest) program) s =
      ⟨x.call, (h.answer x.call s).1⟩ :: asked h (forEach rest program) (h.answer x.call s).2 := by
  show _ :: asked h ((done (x.verdict (h.answer x.call s).1)).bind _) _ = _
  rw [hx]
  rfl

/-- The calls for chores that end. -/
theorem asked_cons_of_error {f : Error} (hx : x.verdict (h.answer x.call s).1 = .error f) :
    asked h (forEach (x :: rest) program) s = [⟨x.call, (h.answer x.call s).1⟩] := by
  show _ :: asked h ((done (x.verdict (h.answer x.call s).1)).bind _) _ = _
  rw [hx]
  rfl

end Handled

/-- What the call for a chore achieves. -/
theorem deed?_asked (x : Chore) (w : World) :
    Asked.deed? ⟨x.call, (World.effect x.call w).1⟩ =
      if x.deed.over w then none else some x.deed := by
  simp only [Asked.deed?, toBool_effect, deed?_call]
  cases x.deed.over w <;> rfl

/-- Chores come to a good end. -/
theorem run_chores (l : List Chore) (w : World) :
    run World.plain (forEach l program) w = (.ok (), after l w) := by
  induction l generalizing w with
  | nil => rfl
  | cons x rest ih =>
    rw [run_cons_of_ok (verdict_effect x w)]
    exact ih _

/-- The calls for chores achieve what these do. -/
theorem achieved_chores (l : List Chore) (w : World) :
    achieved World.plain (forEach l program) w = deeds l w := by
  unfold achieved
  induction l generalizing w with
  | nil => rfl
  | cons x rest ih =>
    have hrest := ih (x.apply w)
    rw [asked_cons_of_ok (verdict_effect x w), List.filterMap_cons, World.plain_answer, deed?_asked]
    cases hx : x.deed.over w
    · simp only [deeds, hx]
      exact congrArg (x.deed :: ·) hrest
    · simp only [deeds, hx]
      exact hrest

/-- There is one call for each chore. -/
theorem attempts_chores (l : List Chore) (w : World) :
    attempts World.plain (forEach l program) w = l.length := by
  unfold attempts
  induction l generalizing w with
  | nil => rfl
  | cons x rest ih =>
    rw [asked_cons_of_ok (verdict_effect x w), List.countP_cons, ih, deed?_call]
    rfl

/-- Chores that are cut off fail at the call, with those before it done. -/
theorem run_chores_cut (he : e.isNotFound = false) (he' : e.isAlreadyExists = false) {n : Nat}
    (hn : 1 ≤ n) (hlast : n ≤ l.length) :
    run (World.plain.cutting (Call.refusal e)) (forEach l program) (w, n) =
        (.error (.tenant e), (after (l.take (n - 1)) w, 0)) ∧
      achieved (World.plain.cutting (Call.refusal e)) (forEach l program) (w, n) =
        deeds (l.take (n - 1)) w := by
  unfold achieved
  induction l generalizing w n with
  | nil =>
    have hzero : n ≤ 0 := hlast
    omega
  | cons x rest ih =>
    obtain ⟨f, hf, hverdict⟩ := exists_refusal he he' x
    obtain ⟨k, rfl⟩ : ∃ k, n = k + 1 := ⟨n - 1, by omega⟩
    cases k with
    | zero =>
      have hanswer := Handler.cutting_answer_one World.plain hf w
      have herror : x.verdict ((World.plain.cutting (Call.refusal e)).answer x.call (w, 1)).1 =
          .error (.tenant e) := by
        rw [hanswer]
        exact hverdict
      rw [run_cons_of_error herror, asked_cons_of_error herror, hanswer]
      exact ⟨rfl, rfl⟩
    | succ k =>
      have hanswer := Handler.cutting_answer_of_ne World.plain hf w (n := k + 2) (by omega)
      have hok : x.verdict ((World.plain.cutting (Call.refusal e)).answer x.call (w, k + 2)).1 =
          .ok () := by
        rw [hanswer]
        exact verdict_effect x w
      obtain ⟨hrun, hasked⟩ := ih (w := x.apply w) (n := k + 1) (by omega)
        (Nat.le_of_succ_le_succ hlast)
      rw [run_cons_of_ok hok, asked_cons_of_ok hok, hanswer]
      refine ⟨hrun, ?_⟩
      rw [List.filterMap_cons, World.plain_answer, deed?_asked]
      show _ = deeds (x :: rest.take k) w
      cases hx : x.deed.over w
      · simp only [deeds, hx]
        exact congrArg (x.deed :: ·) hasked
      · simp only [deeds, hx]
        exact hasked

/-! ## What chores leave alone -/

end Chore

/-- A world without the nodes, the drain requests, the writes and the records. -/
def World.apart (w : World) : World :=
  { w.unlogged with
    nodes := .empty, cordoned := [], drains := .empty, deletedDrains := [], saves :=
      [], metrics := {} }

/-- Whether nothing but deeds, writes and records makes the difference between two worlds. -/
structure World.Spares (ds : List Deed) (w w' : World) : Prop where
  nodes : ∀ name, .cordoned name ∉ ds → w'.nodes.get? name = w.nodes.get? name
  drains : ∀ space name, .created space name ∉ ds → .deleted space name ∉ ds →
    Table.at? w'.drains space name = Table.at? w.drains space name
  apart : w'.apart = w.apart

/-- Worlds that differ in deeds only have the same subscriptions, but for their records. -/
theorem World.subscription_of_apart {w w' : World} (h : w'.apart = w.apart) (a : Account) :
    (w'.subscription a).unlogged = (w.subscription a).unlogged := by
  cases a with
  | cluster secret => exact congrArg World.cluster h
  | controlPlane => exact congrArg World.controlPlane h

namespace World.Spares

variable {ds ds' : List Deed} {w w' w'' : World}

theorem refl (ds : List Deed) (w : World) : Spares ds w w :=
  ⟨fun _ _ => rfl, fun _ _ _ _ => rfl, rfl⟩

theorem mono (h : Spares ds w w') (hds : ∀ d ∈ ds, d ∈ ds') : Spares ds' w w' where
  nodes name hname := h.nodes name fun hd => hname (hds _ hd)
  drains space name hcreated hdeleted :=
    h.drains space name (fun hd => hcreated (hds _ hd)) fun hd => hdeleted (hds _ hd)
  apart := h.apart

theorem trans (h : Spares ds w w') (h' : Spares ds w' w'') : Spares ds w w'' where
  nodes name hname := (h'.nodes name hname).trans (h.nodes name hname)
  drains space name hcreated hdeleted :=
    (h'.drains space name hcreated hdeleted).trans (h.drains space name hcreated hdeleted)
  apart := h'.apart.trans h.apart

end World.Spares

namespace Chore

variable {x : Chore} {l m : List Chore} {w : World}

/-- A chore changes nothing but what it is about. -/
theorem spares_apply (x : Chore) (w : World) :
    World.Spares (if x.deed.over w then [] else [x.deed]) w (x.apply w) := by
  by_cases hx : x.deed.over w = true
  · rw [apply_of_over hx]
    exact .refl _ w
  · rw [if_neg hx]
    cases x with
    | request d =>
      have hnone : Table.at? w.drains d.metadata.spaceName (d.metadata.name.getD "") = none := by
        simpa [deed, Deed.over] using hx
      rw [apply_request hnone]
      refine ⟨fun _ _ => rfl, fun space name hcreated _ => ?_, rfl⟩
      refine Table.at?_put_of_ne _ _ fun hsame => hcreated ?_
      obtain ⟨rfl, rfl⟩ := Prod.mk.inj hsame
      exact List.mem_singleton_self _
    | withdraw space name =>
      obtain ⟨d, hd⟩ : ∃ d, Table.at? w.drains space name = some d := by
        simpa [deed, Deed.over, Option.isNone_iff_eq_none, Option.ne_none_iff_exists'] using hx
      rw [apply_withdraw hd]
      refine ⟨fun _ _ => rfl, fun space' name' _ hdeleted => ?_, rfl⟩
      have hother : ¬ (space = space' ∧ name = name') := by
        rintro ⟨rfl, rfl⟩
        exact hdeleted (List.mem_singleton_self _)
      refine Option.ext fun d' => ?_
      rw [Table.at?_remove]
      exact and_iff_left hother
    | cordon t node =>
      obtain ⟨n, hn⟩ : ∃ n, w.nodes.get? node = some n := by
        simpa [deed, Deed.over, Option.isNone_iff_eq_none, Option.ne_none_iff_exists'] using hx
      rw [apply_cordon hn]
      refine ⟨fun name hname => ?_, fun _ _ _ _ => rfl, rfl⟩
      refine Dict.get?_insert_of_ne _ _ fun hsame => hname ?_
      rw [← hsame]
      exact List.mem_singleton_self _

/-- Chores change nothing but what they achieve. -/
theorem spares_after (l : List Chore) (w : World) : World.Spares (deeds l w) w (after l w) := by
  induction l generalizing w with
  | nil => exact .refl _ w
  | cons x rest ih =>
    have hx := (spares_apply x w).mono fun d hd => List.mem_append_left (deeds rest (x.apply w)) hd
    have hrest := (ih (x.apply w)).mono fun d hd =>
      List.mem_append_right (if x.deed.over w then [] else [x.deed]) hd
    exact hx.trans hrest

/-- No chore is a write. -/
theorem saves_after (l : List Chore) (w : World) : (after l w).saves = w.saves := by
  induction l generalizing w with
  | nil => rfl
  | cons x rest ih =>
    have hx : (x.apply w).saves = w.saves := by
      cases x <;> exact World.saves_perform w (by rintro _ _ _ ⟨⟩)
    exact (ih (x.apply w)).trans hx

/-! ## Chores that were seen to -/

/-- Chores that are over change and achieve nothing. -/
theorem after_of_over (hl : ∀ x ∈ l, x.deed.over w = true) : after l w = w ∧ deeds l w = [] := by
  induction l with
  | nil => exact ⟨rfl, rfl⟩
  | cons x rest ih =>
    have hx := hl x List.mem_cons_self
    obtain ⟨hafter, hdeeds⟩ := ih fun y hy => hl y (List.mem_cons_of_mem x hy)
    show after rest (x.apply w) = w ∧
        (if x.deed.over w then [] else [x.deed]) ++ deeds rest (x.apply w) = []
    rw [apply_of_over hx, if_pos hx]
    exact ⟨hafter, hdeeds⟩

/-- Whether chores are over once they were seen to, and stay so while others of them are. -/
structure Lasting (l : List Chore) : Prop where
  done : ∀ x ∈ l, ∀ w, x.deed.over (x.apply w) = true
  kept : ∀ x ∈ l, ∀ y ∈ l, ∀ w, x.deed.over w = true → x.deed.over (y.apply w) = true

namespace Lasting

theorem mono (hl : Lasting l) (hm : ∀ x ∈ m, x ∈ l) : Lasting m where
  done x hx := hl.done x (hm x hx)
  kept x hx y hy := hl.kept x (hm x hx) y (hm y hy)

/-- What is over stays so. -/
theorem over_after (hl : Lasting l) (hm : ∀ y ∈ m, y ∈ l) (hx : x ∈ l)
    (hover : x.deed.over w = true) :
    x.deed.over (after m w) = true := by
  induction m generalizing w with
  | nil => exact hover
  | cons y rest ih =>
    have hy : x.deed.over (y.apply w) = true := hl.kept x hx y (hm y List.mem_cons_self) w hover
    exact ih (fun z hz => hm z (List.mem_cons_of_mem y hz)) hy

/-- What was seen to is over. -/
theorem over_of_mem (hl : Lasting l) (hm : ∀ y ∈ m, y ∈ l) (hx : x ∈ m) (w : World) :
    x.deed.over (after m w) = true := by
  induction m generalizing w with
  | nil => cases hx
  | cons y rest ih =>
    have hrest : ∀ z ∈ rest, z ∈ l := fun z hz => hm z (List.mem_cons_of_mem y hz)
    rcases List.mem_cons.1 hx with rfl | hmem
    · show x.deed.over (after rest (x.apply w)) = true
      exact hl.over_after hrest (hm x List.mem_cons_self) (hl.done x (hm x List.mem_cons_self) w)
    · exact ih hrest hmem _

/-- What is over is not achieved. -/
theorem not_mem_deeds (hl : Lasting l) (hm : ∀ y ∈ m, y ∈ l) (hx : x ∈ l)
    (hover : x.deed.over w = true) :
    x.deed ∉ deeds m w := by
  induction m generalizing w with
  | nil => exact List.not_mem_nil
  | cons y rest ih =>
    have hrest := ih (w := y.apply w) (fun z hz => hm z (List.mem_cons_of_mem y hz))
      (hl.kept x hx y (hm y List.mem_cons_self) w hover)
    intro hmem
    rcases List.mem_append.1 hmem with hy | hlater
    · split at hy
      · cases hy
      · rename_i hnot
        rw [← List.mem_singleton.1 hy] at hnot
        exact hnot hover
    · exact hrest hlater

/-- Nothing is achieved twice. -/
theorem nodup_deeds (hl : Lasting l) (w : World) : (deeds l w).Nodup := by
  induction l generalizing w with
  | nil => exact List.nodup_nil
  | cons x rest ih =>
    have hrest : ∀ y ∈ rest, y ∈ x :: rest := fun y hy => List.mem_cons_of_mem x hy
    have hlater := ih (hl.mono hrest) (x.apply w)
    show ((if x.deed.over w then [] else [x.deed]) ++ deeds rest (x.apply w)).Nodup
    split
    · exact hlater
    · refine List.nodup_cons.2 ⟨?_, hlater⟩
      exact hl.not_mem_deeds hrest List.mem_cons_self (hl.done x List.mem_cons_self w)

/-- Chores that are over can be left out. -/
theorem filter {α : Type} {f : α → Chore} {keep : α → Bool} {items : List α}
    (hl : Lasting (items.map f)) (hover : ∀ a ∈ items, keep a = false → (f a).deed.over w = true) :
    after ((items.filter keep).map f) w = after (items.map f) w ∧
      deeds ((items.filter keep).map f) w = deeds (items.map f) w := by
  induction items generalizing w with
  | nil => exact ⟨rfl, rfl⟩
  | cons a rest ih =>
    have hlater : ∀ b ∈ rest, keep b = false → (f b).deed.over ((f a).apply w) = true :=
      fun b hb hkeep =>
      hl.kept (f b) (List.mem_cons_of_mem _ (List.mem_map_of_mem hb)) (f a) List.mem_cons_self w
        (hover b (List.mem_cons_of_mem a hb) hkeep)
    obtain ⟨hafter, hdeeds⟩ := ih (hl.mono fun x hx => List.mem_cons_of_mem (f a) hx) hlater
    cases hkeep : keep a with
    | true =>
      rw [List.filter_cons_of_pos hkeep]
      exact ⟨hafter, congrArg (_ ++ ·) hdeeds⟩
    | false =>
      have ha := hover a List.mem_cons_self hkeep
      rw [apply_of_over ha] at hafter hdeeds
      rw [List.filter_cons_of_neg (by simp [hkeep])]
      show _ = after (rest.map f) ((f a).apply w) ∧
        _ = (if (f a).deed.over w then [] else [(f a).deed]) ++ deeds (rest.map f) ((f a).apply w)
      rw [apply_of_over ha, if_pos ha]
      exact ⟨hafter, hdeeds⟩

/-- Chores of which the first were seen to need only those behind them, and may leave out what is
over. -/
theorem resume {α : Type} {f : α → Chore} {items : List α} (hl : Lasting (items.map f))
    (keep : α → Bool) (k : Nat) (hover : ∀ a ∈ items, keep a = false →
      (f a).deed.over (after ((items.map f).take k) w) = true) :
    after ((items.filter keep).map f) (after ((items.map f).take k) w) = after (items.map f) w ∧
      deeds ((items.filter keep).map f) (after ((items.map f).take k) w) =
        deeds ((items.map f).drop k) (after ((items.map f).take k) w) := by
  obtain ⟨hafter, hdeeds⟩ := hl.filter hover
  -- The first ones are over now, so to do all of them is to do the others.
  obtain ⟨hstill, hnone⟩ := after_of_over fun x hx =>
    hl.over_of_mem (fun y hy => List.mem_of_mem_take hy) hx w
  have hsplit : items.map f = (items.map f).take k ++ (items.map f).drop k :=
    (List.take_append_drop k _).symm
  rw [hafter, hdeeds]
  constructor
  · rw [hsplit, after_append, after_append, ← hsplit, hstill]
  · rw [hsplit, deeds_append, ← hsplit, hnone, hstill]
    rfl

end Lasting

/-! ## Requests and withdrawals -/

/-- Drain requests that were created stay, whatever others are. -/
theorem lasting_requests {α : Type} (f : α → DrainerConfig) (items : List α) :
    Lasting (items.map fun a => request (f a)) := by
  have hkept : ∀ (d d' : DrainerConfig) (w : World), (request d).deed.over w = true →
      (request d).deed.over ((request d').apply w) = true := by
    intro d d' w hover
    by_cases hd' : (request d').deed.over w = true
    · rw [apply_of_over hd']
      exact hover
    · have hnone : Table.at? w.drains d'.metadata.spaceName (d'.metadata.name.getD "") = none := by
        simpa [deed, Deed.over] using hd'
      have hother : (d'.metadata.spaceName, d'.metadata.name.getD "") ≠
          (d.metadata.spaceName, d.metadata.name.getD "") := by
        intro hsame
        obtain ⟨hspace, hname⟩ := Prod.mk.inj hsame
        rw [deed, Deed.over, ← hspace, ← hname, hnone] at hover
        cases hover
      rw [apply_request hnone]
      simp only [deed, Deed.over, Table.at?_put_of_ne _ _ hother]
      exact hover
  constructor
  · intro x hx w
    obtain ⟨a, -, rfl⟩ := List.mem_map.1 hx
    by_cases hover : (request (f a)).deed.over w = true
    · exact hkept _ _ w hover
    · have hnone : Table.at? w.drains (f a).metadata.spaceName ((f a).metadata.name.getD "") =
          none := by
        simpa [deed, Deed.over] using hover
      rw [apply_request hnone]
      simp only [deed, Deed.over, Table.at?_put_self, Option.isSome_some]
  · intro x hx y hy w hover
    obtain ⟨a, -, rfl⟩ := List.mem_map.1 hx
    obtain ⟨b, -, rfl⟩ := List.mem_map.1 hy
    exact hkept _ _ w hover

/-- A drain request is not found after it was deleted, and others are found as before. -/
theorem at?_withdraw (space name : String) (w : World) (space' name' : String) (d : DrainerConfig) :
    Table.at? ((withdraw space name).apply w).drains space' name' = some d ↔
      Table.at? w.drains space' name' = some d ∧ ¬ (space = space' ∧ name = name') := by
  cases hd : Table.at? w.drains space name with
  | none =>
    have hover : (withdraw space name).deed.over w = true := by
      simp only [deed, Deed.over, hd, Option.isNone_none]
    rw [apply_of_over hover]
    constructor
    · intro hfound
      refine ⟨hfound, ?_⟩
      rintro ⟨rfl, rfl⟩
      rw [hd] at hfound
      cases hfound
    · exact And.left
  | some found =>
    rw [apply_withdraw hd]
    exact Table.at?_remove

/-- Drain requests that were deleted stay away, whatever others are deleted. -/
theorem lasting_withdrawals {α : Type} (space : String) (f : α → String) (items : List α) :
    Lasting (items.map fun a => withdraw space (f a)) := by
  have hgone : ∀ (name : String) (w : World), (withdraw space name).deed.over w = true ↔
      ∀ d, Table.at? w.drains space name ≠ some d := by
    intro name w
    simp only [deed, Deed.over, Option.isNone_iff_eq_none, Option.eq_none_iff_forall_ne_some]
  constructor
  · intro x hx w
    obtain ⟨a, -, rfl⟩ := List.mem_map.1 hx
    rw [hgone]
    intro d hd
    exact ((at?_withdraw _ _ _ _ _ _).1 hd).2 ⟨rfl, rfl⟩
  · intro x hx y hy w hover
    obtain ⟨a, -, rfl⟩ := List.mem_map.1 hx
    obtain ⟨b, -, rfl⟩ := List.mem_map.1 hy
    rw [hgone] at hover ⊢
    intro d hd
    exact hover d ((at?_withdraw _ _ _ _ _ _).1 hd).1

/-- After drain requests of a namespace were deleted, those of other names are found. -/
theorem at?_withdrawals (space : String) (names : List String) (w : World) (space' name' : String)
    (d : DrainerConfig) :
    Table.at? (after (names.map (withdraw space)) w).drains space' name' = some d ↔
      Table.at? w.drains space' name' = some d ∧ ¬ (space = space' ∧ name' ∈ names) := by
  induction names generalizing w with
  | nil => simp [after]
  | cons name rest ih =>
    show Table.at? (after (rest.map (withdraw space)) ((withdraw space name).apply w)).drains
        space' name' =
      some d ↔ _
    rw [ih, at?_withdraw, List.mem_cons]
    constructor
    · rintro ⟨⟨hd, hfirst⟩, hrest⟩
      refine ⟨hd, ?_⟩
      rintro ⟨hspace, rfl | hmem⟩
      · exact hfirst ⟨hspace, rfl⟩
      · exact hrest ⟨hspace, hmem⟩
    · rintro ⟨hd, hnot⟩
      exact ⟨⟨hd, fun hsame => hnot ⟨hsame.1, Or.inl hsame.2.symm⟩⟩, fun hmem =>
        hnot ⟨hmem.1, Or.inr hmem.2⟩⟩

/-- Nodes that were closed are found closed, and others are found as they are. -/
theorem get?_cordons (t : Tenant) (names : List String) (w : World) (name : String) :
    (after (names.map (cordon t)) w).nodes.get? name =
      (w.nodes.get? name).map fun n => if name ∈ names then n.cordon else n := by
  induction names generalizing w with
  | nil => simp [after]
  | cons node rest ih =>
    show (after (rest.map (cordon t)) ((cordon t node).apply w)).nodes.get? name = _
    rw [ih]
    cases hnode : w.nodes.get? node with
    | none =>
      have hover : (cordon t node).deed.over w = true := by
        simp only [deed, Deed.over, hnode, Option.isNone_none]
      rw [apply_of_over hover]
      by_cases hname : name = node
      · rw [hname, hnode]
        rfl
      · simp only [List.mem_cons, hname, false_or]
    | some n =>
      rw [apply_cordon hnode, Dict.get?_insert]
      by_cases hname : node = name
      · subst hname
        rw [if_pos rfl, hnode]
        simp only [Option.map_some, List.mem_cons, true_or, if_true]
        split <;> rfl
      · rw [if_neg hname]
        simp only [List.mem_cons, Ne.symm hname, false_or]

/-- What is achieved is among what the chores were to achieve, in their order. -/
theorem deeds_sublist (l : List Chore) (w : World) : (deeds l w).Sublist (l.map deed) := by
  induction l generalizing w with
  | nil => exact .refl _
  | cons x rest ih =>
    show ((if x.deed.over w then [] else [x.deed]) ++ deeds rest (x.apply w)).Sublist
        (x.deed :: rest.map deed)
    split
    · exact (ih _).cons _
    · exact (ih _).cons_cons _

/-- What is achieved is what a chore was to achieve. -/
theorem exists_of_mem_deeds {d : Deed} (hd : d ∈ deeds l w) : ∃ x ∈ l, x.deed = d :=
  List.mem_map.1 ((deeds_sublist l w).subset hd)

end Chore

/-- Whether nodes and drain requests are stored under their own names. -/
structure World.Keyed (w : World) : Prop where
  nodes : ∀ {name n}, w.nodes.get? name = some n → n.name = name
  drains : ∀ {space name d}, Table.at? w.drains space name = some d → d.metadata.name.getD "" = name

end TenantFleet
