/-
# Passes that go through a list

A looping pass looks around, sees to the chores that it found, and keeps what it came to. It can be
cut off at any of its chores, when the pass after it finds those that are left: it need not find
just these, since a chore that was seen to can be done again.

* `looping` : a pass that goes through a list;
* `Resumable` : that a pass that begins anew finds the chores that are left;
* `ResumesAt` : that a pass can be cut off at a call, and the pass after it comes to the same end;
* `resumesAt_looping` : a looping pass can be cut off at each of its calls.
-/
import TenantFleet.Proofs.Pass.Moment
import TenantFleet.Proofs.World.Chores

namespace TenantFleet

open Program

variable {α : Type} {w : World} {p p' : Program α} {look : Program (Option (List Chore))}
  {l : List Chore} {idle idle' finish : Program α} {e : TenantError} {k : Nat}

/-! ## Programs that only keep what they came to -/

/-- Whether a call is a write of what a handler keeps. -/
def Call.saves : Call → Prop
  | .saveStatus _ _ _ => True
  | _ => False

/-- Such a write achieves nothing for drain requests and nodes. -/
theorem Call.deed?_of_saves {c : Call} (hc : c.saves) : c.deed? = none := by
  cases c with
  | saveStatus target handler values => rfl
  | _ => exact hc.elim

/-- To keep an outcome is nothing but a write. -/
theorem asks_persist {σ : Type} [Stage σ] (settings : PassSettings) (now : Timestamp)
    (handler : String) (target : StatusTarget) (source : σ) (o : Outcome σ) :
    Asks Call.saves (persist settings now handler target source o) := by
  by_cases hfollows : Stage.follows source o.transition.stage = true
  · rw [persist_eq settings now handler target hfollows]
    exact ⟨trivial, asks_afterWrite settings handler source o.transition⟩
  · rw [persist_of_not_follows settings now handler target hfollows]
    trivial

/-- Writes leave all else as it is. -/
theorem spares_of_saves (hp : Asks Call.saves p) (w : World) :
    World.Spares [] w (run World.plain p w).2 := by
  induction p generalizing w with
  | done r => exact .refl _ w
  | note event rest ih =>
    have hnoted : World.Spares [] w (World.plain.note event w) :=
      ⟨fun _ _ => rfl, fun _ _ _ _ => rfl, rfl⟩
    exact hnoted.trans (ih hp _)
  | ask c resume ih =>
    have hsaved : World.Spares [] w (World.effect c w).2 := by
      cases c with
      | saveStatus target handler values => exact ⟨fun _ _ => rfl, fun _ _ _ _ => rfl, rfl⟩
      | _ => exact hp.1.elim
    exact hsaved.trans (ih _ (hp.2 _) _)

/-! ## Looping passes -/

/-- A pass that sees to the chores that it finds and then finishes, or finds that it has to wait. -/
def looping (look : Program (Option (List Chore))) (idle finish : Program α) : Program α :=
  look.bind fun
    | none => idle
    | some l => (forEach l Chore.program).bind fun _ => finish

/-- A looping pass goes on behind both of its ends. -/
theorem looping_bind {β : Type} (next : α → Program β) :
    (looping look idle finish).bind next = looping look (idle.bind next) (finish.bind next) := by
  unfold looping
  rw [bind_assoc]
  congr 1
  funext found
  cases found with
  | none => rfl
  | some l => exact bind_assoc _ _ _

/-- Whether a pass that begins anew after some of its chores, in a world of a kind, finds what is
left of them. -/
structure Resumable (look : Program (Option (List Chore))) (W : World → Prop) : Prop where
  /-- To look around achieves nothing. -/
  asks : Asks (fun c => c.deed? = none) look
  /-- To look around changes nothing. -/
  still : ∀ w, (run World.plain look w).2 = w
  /-- The chores that are found then do what was left. -/
  again : ∀ {w l} (k : Nat), W w → (run World.plain look w).1 = .ok (some l) →
    ∃ l', (run World.plain look (Chore.after (l.take k) w)).1 = .ok (some l') ∧
      Chore.after l' (Chore.after (l.take k) w) = Chore.after l w ∧
      Chore.deeds l' (Chore.after (l.take k) w) = Chore.deeds (l.drop k) (Chore.after (l.take k) w)
  /-- Nothing is done twice. -/
  nodup : ∀ {w l}, W w → (run World.plain look w).1 = .ok (some l) → (Chore.deeds l w).Nodup

/-- A pass that found chores sees to them and finishes. -/
theorem run_looping (idle : Program α) {W : World → Prop} (hlook : Resumable look W)
    (hfinish : Asks Call.saves finish) (hl : (run World.plain look w).1 = .ok (some l)) :
    run World.plain (looping look idle finish) w = run World.plain finish (Chore.after l w) ∧
      achieved World.plain (looping look idle finish) w = Chore.deeds l w ∧
      attempts World.plain (looping look idle finish) w = l.length := by
  have hrun : run World.plain look w = (.ok (some l), w) := Prod.ext hl (hlook.still w)
  have hends : Asks (fun c => c.deed? = none) finish := hfinish.mono fun _ hc =>
    Call.deed?_of_saves hc
  obtain ⟨hlooked, huntried⟩ := achieved_of_asks hlook.asks World.plain w
  obtain ⟨hfinished, hnone⟩ := achieved_of_asks hends World.plain (Chore.after l w)
  obtain ⟨hachieved, hattempts⟩ := achieved_bind_of_ok (Chore.run_chores l w) fun _ => finish
  unfold looping
  obtain ⟨hwhole, hcount⟩ := achieved_bind_of_ok hrun fun
    | none => idle
    | some l => (forEach l Chore.program).bind fun _ => finish
  refine ⟨?_, ?_, ?_⟩
  · rw [run_bind, hrun]
    dsimp only
    rw [run_bind, Chore.run_chores]
  · rw [hwhole, hlooked, hachieved, hfinished, Chore.achieved_chores, List.append_nil,
      List.nil_append]
  · rw [hcount, huntried, hattempts, hnone, Chore.attempts_chores, Nat.add_zero, Nat.zero_add]

/-- A pass that did not find chores attempts nothing. -/
theorem attempts_of_idle (finish : Program α) {W : World → Prop} (hlook : Resumable look W)
    (hidle : Asks Call.saves idle) (hl : ∀ l, (run World.plain look w).1 ≠ .ok (some l)) :
    attempts World.plain (looping look idle finish) w = 0 := by
  obtain ⟨-, huntried⟩ := achieved_of_asks hlook.asks World.plain w
  have hstays : Asks (fun c => c.deed? = none) idle := hidle.mono fun _ hc => Call.deed?_of_saves hc
  unfold looping
  rcases hr : run World.plain look w with ⟨f | found, w'⟩
  · rw [(achieved_bind_of_error hr _).2, huntried]
  · cases found with
    | none =>
      rw [(achieved_bind_of_ok hr _).2, huntried, (achieved_of_asks hstays World.plain w').2]
    | some l =>
      rw [hr] at hl
      exact absurd rfl (hl l)

/-- A pass that found chores and is cut off at one of them has seen to those before it. -/
theorem run_looping_cut (idle finish : Program α) {W : World → Prop} (hlook : Resumable look W)
    (he : e.isNotFound = false) (he' : e.isAlreadyExists = false)
    (hl : (run World.plain look w).1 = .ok (some l)) (hk : 1 ≤ k) (hlast : k ≤ l.length) :
    run (World.plain.cutting (Call.refusal e)) (looping look idle finish) (w, k) =
        (.error (.tenant e), (Chore.after (l.take (k - 1)) w, 0)) ∧
      achieved (World.plain.cutting (Call.refusal e)) (looping look idle finish) (w, k) =
        Chore.deeds (l.take (k - 1)) w := by
  have hspared : Asks (fun c => c.refusal e = none) look := hlook.asks.mono fun _ hc =>
    Call.refusal_eq_none hc e
  have hrun : run (World.plain.cutting (Call.refusal e)) look (w, k) = (.ok (some l), (w, k)) := by
    rw [run_cutting hspared, hl, hlook.still]
  obtain ⟨hcut, hdone⟩ := Chore.run_chores_cut (w := w) he he' hk hlast
  obtain ⟨hlooked, -⟩ := achieved_of_asks hlook.asks (World.plain.cutting (Call.refusal e)) (w, k)
  obtain ⟨hachieved, -⟩ := achieved_bind_of_error hcut fun _ => finish
  unfold looping
  obtain ⟨hwhole, -⟩ := achieved_bind_of_ok hrun fun
    | none => idle
    | some l => (forEach l Chore.program).bind fun _ => finish
  constructor
  · rw [run_bind, hrun]
    dsimp only
    rw [run_bind, hcut]
  · rw [hwhole, hlooked, hachieved, hdone, List.nil_append]

/-- A pass that begins anew behind the first chores comes to what a whole one comes to. -/
theorem run_looping_again (idle idle' : Program α) {W : World → Prop} (hlook : Resumable look W)
    (hfinish : Asks Call.saves finish) (hW : W w) (hl : (run World.plain look w).1 = .ok (some l))
    (n : Nat) :
    run World.plain (looping look idle' finish) (Chore.after (l.take n) w) =
        run World.plain (looping look idle finish) w ∧
      Chore.deeds (l.take n) w ++ achieved World.plain (looping look idle' finish)
        (Chore.after (l.take n) w) = achieved World.plain (looping look idle finish) w := by
  obtain ⟨l', hl', hafter, hleft⟩ := hlook.again n hW hl
  obtain ⟨hagain, hdone, -⟩ := run_looping idle' hlook hfinish hl'
  obtain ⟨hwhole, hall, -⟩ := run_looping idle hlook hfinish hl
  constructor
  · rw [hagain, hwhole, hafter]
  · rw [hdone, hall, hleft, ← Chore.deeds_append, List.take_append_drop]

/-! ## Passes that can be cut off -/

/-- The run of a pass that fails at the `k`-th of its calls that are to achieve something. -/
def cutOff (e : TenantError) (k : Nat) (p : Program α) (w : World) : Except Error α × World × Nat :=
  run (World.handler.cutting (Call.refusal e)) p (w, k)

/-- Whether a pass can fail at the `k`-th of its calls that are to achieve something, and another
pass after it comes to what the first one would have come to. -/
structure ResumesAt (e : TenantError) (k : Nat) (w : World) (p p' : Program α) : Prop where
  /-- The pass fails, and has kept nothing. -/
  failed : (cutOff e k p w).1 = .error (.tenant e) ∧ (cutOff e k p w).2.1.saves = w.saves
  /-- The pass after it ends as the whole one. -/
  result : (run World.handler p' (cutOff e k p w).2.1).1 = (run World.handler p w).1
  /-- It leaves the same nodes, drain requests, writes and all else, but for the records of
  calls. -/
  world : (run World.handler p' (cutOff e k p w).2.1).2.unlogged =
    (run World.handler p w).2.unlogged
  /-- Both together do what the whole one does, in order. -/
  deeds : achieved (World.handler.cutting (Call.refusal e)) p (w, k) ++
    achieved World.handler p' (cutOff e k p w).2.1 = achieved World.handler p w
  /-- Nothing is done twice. -/
  nodup : (achieved World.handler p w).Nodup
  /-- Nothing is touched in between but what the whole one handles. -/
  between : World.Spares (achieved World.handler p w) w (cutOff e k p w).2.1
  /-- Nothing is touched in the end but what the whole one handles. -/
  spared : World.Spares (achieved World.handler p w) w (run World.handler p' (cutOff e k p w).2.1).2

/-- Records make no difference to what is left alone. -/
theorem World.Spares.of_unlogged {ds : List Deed} {w w' : World}
    (h : World.Spares ds w.unlogged w'.unlogged) :
    World.Spares ds w w' := ⟨h.nodes, h.drains, h.apart⟩

/-- A looping pass can be cut off at each of its calls. -/
theorem resumesAt_looping {W : World → Prop} (hlook : Resumable look W)
    (hidle : Asks Call.saves idle)
    (hfinish : Asks Call.saves finish) (hw : w.Calm) (hW : W w.unlogged) (he : e.isNotFound = false)
    (he' : e.isAlreadyExists = false) (hk : 1 ≤ k)
    (hlast : k ≤ attempts World.handler (looping look idle finish) w) :
    ResumesAt e k w (looping look idle finish) (looping look idle' finish) := by
  have hsame : w.Calm ∧ w.unlogged = w.unlogged := ⟨hw, rfl⟩
  -- The whole pass found chores, since it attempted something.
  obtain ⟨hresult, -, hleft⟩ := World.sims_plain.run hsame (looping look idle finish)
  obtain ⟨hachieved, hattempts⟩ := World.sims_plain.achieved hsame (looping look idle finish)
  have hfound : ∃ l, (run World.plain look w.unlogged).1 = .ok (some l) := by
    refine Classical.byContradiction fun hnone => ?_
    have hzero := attempts_of_idle finish hlook hidle fun l hl => hnone ⟨l, hl⟩
    omega
  obtain ⟨l, hl⟩ := hfound
  obtain ⟨hwhole, hdeeds, hcount⟩ := run_looping idle hlook hfinish hl
  have hshort : k ≤ l.length := by omega
  -- The pass that is cut off has seen to those before the call that failed.
  obtain ⟨hcut, hbefore⟩ := run_looping_cut idle finish hlook he he' hl hk hshort
  have hcutSims := World.sims_plain.cutting (Call.refusal e)
  have hstart : (w.Calm ∧ w.unlogged = w.unlogged) ∧ k = k := ⟨hsame, rfl⟩
  obtain ⟨hfailed, ⟨hcalm, hcutLeft⟩, -⟩ := hcutSims.run (w := (w, k)) (u := (w.unlogged, k)) hstart
    (looping look idle finish)
  obtain ⟨hcutAchieved, -⟩ := hcutSims.achieved (s := (w, k)) (u := (w.unlogged, k)) hstart
    (looping look idle finish)
  rw [hcut] at hfailed hcutLeft
  -- The pass behind it finds the others.
  obtain ⟨hagain, hrest⟩ := run_looping_again idle idle' hlook hfinish hW hl (k - 1)
  obtain ⟨hthen, -, hthenLeft⟩ := World.sims_plain.run ⟨hcalm, hcutLeft⟩ (looping look idle' finish)
  obtain ⟨hthenAchieved, -⟩ := World.sims_plain.achieved ⟨hcalm, hcutLeft⟩
    (looping look idle' finish)
  have hall : achieved World.handler (looping look idle finish) w = Chore.deeds l w.unlogged :=
    hachieved.trans hdeeds
  refine ⟨⟨hfailed, ?_⟩, ?_, ?_, ?_, ?_, ?_, ?_⟩
  · have hsaves : (cutOff e k (looping look idle finish) w).2.1.unlogged.saves = w.saves := by
      rw [cutOff, hcutLeft]
      exact Chore.saves_after _ _
    exact hsaves
  · rw [cutOff, hthen, hagain, hresult]
  · rw [cutOff, hthenLeft, hagain, hleft]
  · rw [cutOff, hcutAchieved, hbefore, hthenAchieved, hrest, hachieved]
  · rw [hall]
    exact hlook.nodup hW hl
  · refine .of_unlogged ?_
    rw [cutOff, hcutLeft, hall]
    refine (Chore.spares_after _ _).mono fun d hd => ?_
    rw [← List.take_append_drop (k - 1) l, Chore.deeds_append]
    exact List.mem_append_left _ hd
  · refine .of_unlogged ?_
    rw [cutOff, hthenLeft, hagain, hwhole, hall]
    exact (Chore.spares_after l _).trans ((spares_of_saves hfinish _).mono fun _ hd =>
      absurd hd List.not_mem_nil)

end TenantFleet
