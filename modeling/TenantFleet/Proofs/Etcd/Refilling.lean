/-
# Disks that are there already

In memory, a run changes no disk but those that it did not find, and it finds every disk that is
there, unless the look-ups are made to fail as if the disks were missing. So what was there stays as
it was, and after a run that ended well nothing is left to make.

* `World.ShowsDisks` : that no look-up is made to fail as if the disk were missing;
* `Spares` : that the disks that were not missed are as they were;
* `completed_makeDisks` and `completed_ensureDisks` : what a run leaves;
* `fills_gaps` : what making the missing disks does, whatever is answered, and in memory.
-/
import TenantFleet.Proofs.Etcd.Filling
import TenantFleet.Proofs.Etcd.Stock

namespace TenantFleet

/-- Whether no look-up of a disk is made to fail as if the disk were missing. -/
def World.ShowsDisks (w : World) : Prop := w.cluster.failures.get? "get_disk" ≠ some 404

/-- A request that is made to fail has no effect. -/
theorem Subscription.answer_of_failure {s : Subscription} {k : CloudCall} {status : Nat}
    (h : s.failures.get? k.method = some status) (group : String) :
    s.answer group k = (.error (.ofStatus status (k.method ++ " " ++ k.target)), s.logged k) := by
  simp [answer, logged, h]

namespace Etcd

open Program

variable {c : AzureConfig} {zones : List String} {snapshots : List Snapshot} {names : List String}
  {w w' w'' : World} {n : String}

/-! ## What is answered in memory -/

/-- Whether a disk is there in a world. -/
def There (w : World) (n : String) : Prop := ∃ d, w.cluster.disks.get? n = some d

theorem not_there (hmissing : w.cluster.disks.get? n = none) : ¬There w n := by
  rintro ⟨d, hd⟩
  rw [hmissing] at hd
  cases hd

/-- Whether two worlds have the same disks, and make the same requests fail. -/
structure SameDisks (w w' : World) : Prop where
  failures : w'.cluster.failures = w.cluster.failures
  disks : w'.cluster.disks = w.cluster.disks

/-- Whether a world has a disk, and else the disks of another one. -/
structure Written (n : String) (w w' : World) : Prop where
  failures : w'.cluster.failures = w.cluster.failures
  there : There w' n
  others : ∀ m, n ≠ m → w'.cluster.disks.get? m = w.cluster.disks.get? m

/-- A request about a cluster is answered by its subscription. -/
theorem answer_group (c : AzureConfig) (k : CloudCall) (w : World) :
    World.handler.answer (.cloud c.group.account c.group.name k) w =
      ((w.cluster.answer c.group.name k).1,
        { w with cluster := (w.cluster.answer c.group.name k).2 }) := rfl

theorem failures_ne_empty {method : String} {status : Nat}
    (h : w.cluster.failures.get? method = some status) :
    w.cluster.failures ≠ .empty := by
  intro hempty
  rw [hempty] at h
  cases h

/-- A look-up finds the disk that is there; or it misses one that is not there or not shown; or it
is made to fail. -/
theorem getDisk_cases (c : AzureConfig) (n : String) (w : World) :
    ∃ r w', World.handler.answer (.cloud c.group.account c.group.name (.getDisk n)) w = (r, w') ∧
    SameDisks w w' ∧
      ((There w n ∧ ∃ d, r = .ok d) ∨
        ((w.ShowsDisks → ¬There w n) ∧ ∃ e, r = .error e ∧ e.isNotFound = true) ∨
        (w.cluster.failures ≠ .empty ∧ ∃ e, r = .error e ∧ e.isNotFound = false)) := by
  rw [answer_group]
  cases hfails : w.cluster.failures.get? "get_disk" with
  | some status =>
    rw [Subscription.answer_of_failure (k := .getDisk n) hfails]
    refine ⟨_, _, rfl, ⟨rfl, rfl⟩, Or.inr ?_⟩
    have hstatus := AzureError.isNotFound_ofStatus status ("get_disk " ++ n)
    by_cases hmissing : status = 404
    · subst hmissing
      exact Or.inl ⟨fun hw => absurd hfails hw, _, rfl, hstatus⟩
    · rw [decide_eq_false hmissing] at hstatus
      exact Or.inr ⟨failures_ne_empty hfails, _, rfl, hstatus⟩
  | none =>
    rw [Subscription.answer_of_noFailure (c := .getDisk n) hfails]
    refine ⟨Subscription.orMissing (w.cluster.disks.get? n) ("disk " ++ n), _, rfl, ⟨rfl, rfl⟩, ?_⟩
    cases hdisk : w.cluster.disks.get? n with
    | some d => exact Or.inl ⟨⟨d, hdisk⟩, d, rfl⟩
    | none => exact Or.inr (Or.inl ⟨fun _ => not_there hdisk, _, rfl, rfl⟩)

/-- A disk is written, or the request is made to fail. -/
theorem putDisk_cases (c : AzureConfig) (n : String) (d : Disk) (w : World) :
    ∃ r w', World.handler.answer (.cloud c.group.account c.group.name (.putDisk n d)) w = (r, w') ∧
      ((Written n w w' ∧ ∃ op, r = .ok op) ∨
        (w.cluster.failures ≠ .empty ∧ SameDisks w w' ∧ ∃ e, r = .error e)) := by
  rw [answer_group]
  cases hfails : w.cluster.failures.get? "create_or_update_disk" with
  | some status =>
    rw [Subscription.answer_of_failure (k := .putDisk n d) hfails]
    exact ⟨_, _, rfl, Or.inr ⟨failures_ne_empty hfails, ⟨rfl, rfl⟩, _, rfl⟩⟩
  | none =>
    rw [Subscription.answer_of_noFailure (c := .putDisk n d) hfails]
    refine ⟨_, _, rfl, Or.inl ⟨⟨rfl, ?_, fun m hne => get?_putDisk_of_ne hne⟩, _, rfl⟩⟩
    cases hdisk : w.cluster.disks.get? n with
    | none => exact ⟨_, get?_putDisk_of_none c.group.name d hdisk⟩
    | some d' => exact ⟨_, get?_putDisk_of_some c.group.name d hdisk⟩

/-- The snapshots are listed, or the request is made to fail. -/
theorem listSnapshots_cases (c : AzureConfig) (w : World) :
    ∃ r w', World.handler.answer (.cloud c.group.account c.group.name .listSnapshots) w = (r, w') ∧
    SameDisks w w' ∧
      ((∃ snapshots, r = .ok snapshots) ∨ (w.cluster.failures ≠ .empty ∧ ∃ e, r = .error e)) := by
  rw [answer_group]
  cases hfails : w.cluster.failures.get? "list_snapshots" with
  | some status =>
    rw [Subscription.answer_of_failure (k := .listSnapshots) hfails]
    exact ⟨_, _, rfl, ⟨rfl, rfl⟩, Or.inr ⟨failures_ne_empty hfails, _, rfl⟩⟩
  | none =>
    rw [Subscription.answer_of_noFailure (c := .listSnapshots) hfails]
    exact ⟨_, _, rfl, ⟨rfl, rfl⟩, Or.inl ⟨_, rfl⟩⟩

/-! ## Disks that were not missed -/

@[simp] theorem missed_append (before after : List Asked) :
    missed (before ++ after) = missed before ++ missed after := by
  unfold missed
  rw [List.filterMap_append]

/-- Whether calls change no disks but those that they missed, and miss no disk that is there as long
as the look-ups show the disks. -/
structure Spares (trace : List Asked) (w w' : World) : Prop where
  /-- The same requests are made to fail. -/
  failures : w'.cluster.failures = w.cluster.failures
  /-- A disk that was not missed is as it was. -/
  kept : ∀ n d, w.cluster.disks.get? n = some d → n ∉ missed trace →
    w'.cluster.disks.get? n = some d
  /-- A disk that was there is still there. -/
  there : ∀ n, There w n → There w' n
  /-- A disk that is there is not missed. -/
  shown : w.ShowsDisks → ∀ n, There w n → n ∉ missed trace

namespace Spares

variable {before after trace : List Asked}

theorem trans (h : Spares before w w') (h' : Spares after w' w'') :
    Spares (before ++ after) w w'' where
  failures := h'.failures.trans h.failures
  kept n d hd hn := by
    rw [missed_append, List.mem_append, not_or] at hn
    exact h'.kept n d (h.kept n d hd hn.1) hn.2
  there n hn := h'.there n (h.there n hn)
  shown hw n hn := by
    have hw' : w'.ShowsDisks := by
      unfold World.ShowsDisks
      rw [h.failures]
      exact hw
    rw [missed_append, List.mem_append, not_or]
    exact ⟨h.shown hw n hn, h'.shown hw' n (h.there n hn)⟩

/-- Calls that leave the disks as they are, and miss only what is not there or not shown. -/
theorem of_same (h : SameDisks w w') (hmissed : w.ShowsDisks → ∀ n ∈ missed trace, ¬There w n) :
    Spares trace w w' where
  failures := h.failures
  kept n d hd _ := by rw [h.disks, hd]
  there n hn := by
    unfold There
    rw [h.disks]
    exact hn
  shown hw n hn hmem := hmissed hw n hmem hn

/-- Calls that leave the disks as they are, and miss nothing. -/
theorem unmissed (h : SameDisks w w') (hmissed : missed trace = []) : Spares trace w w' := by
  refine of_same h fun _ n hn => ?_
  rw [hmissed] at hn
  cases hn

/-- A disk that was missed and is written then is the only one that changes. -/
theorem written (h : Spares before w w') (hn : n ∈ missed before) (hput : Written n w' w'')
    (after : List Asked) (hafter : missed after = []) : Spares (before ++ after) w w'' where
  failures := hput.failures.trans h.failures
  kept m d hd hm := by
    rw [missed_append, hafter, List.append_nil] at hm
    have hne : n ≠ m := by
      rintro rfl
      exact hm hn
    rw [hput.others m hne]
    exact h.kept m d hd hm
  there m hm := by
    by_cases hne : n = m
    · subst hne
      exact hput.there
    · unfold There
      rw [hput.others m hne]
      exact h.there m hm
  shown hw m hm := by
    rw [missed_append, hafter, List.append_nil]
    exact h.shown hw m hm

end Spares

/-! ## A run in memory -/

/-- What a run over some disks leaves: disks that were not missed are as they were; after a good end
all disks are there when there are zones; and the end is good when nothing is made to fail. -/
structure Completed (zones names : List String) (w : World) (trace : List Asked)
    (r : Except Error Unit) (w' : World) : Prop where
  spares : Spares trace w w'
  there : zones ≠ [] → r = .ok () → ∀ n ∈ names, There w' n
  calm : w.cluster.failures = .empty → r = .ok ()

namespace Completed

variable {before trace : List Asked} {r : Except Error Unit}

/-- A disk that is there after the first calls comes before the others. -/
theorem cons (h : Completed zones names w' trace r w'') (hbefore : Spares before w w')
    (hn : There w' n) :
    Completed zones (n :: names) w (before ++ trace) r w'' where
  spares := hbefore.trans h.spares
  there hzones hr := List.forall_mem_cons.2 ⟨h.spares.there n hn, h.there hzones hr⟩
  calm hw := h.calm (hbefore.failures.trans hw)

/-- A run that fails at a request that is made to fail. -/
theorem failed (h : Spares trace w w') (e : Error) (hfails : w.cluster.failures ≠ .empty) :
    Completed zones names w trace (.error e) w' where
  spares := h
  there _ hr := by cases hr
  calm hw := absurd hw hfails

end Completed

/-- A run over some disks leaves those that it did not miss, and makes the others. -/
theorem completed_makeDisks (c : AzureConfig) (zones : List String) (snapshots : List Snapshot)
    (k : Nat) (names : List String) (w : World) :
    Completed zones names w (asked World.handler (makeDisks c zones snapshots k names) w)
      (run World.handler (makeDisks c zones snapshots k names) w).1
      (run World.handler (makeDisks c zones snapshots k names) w).2 := by
  induction names generalizing k w with
  | nil => exact ⟨.unmissed ⟨rfl, rfl⟩ rfl, fun _ _ => List.forall_mem_nil _, fun _ => rfl⟩
  | cons n names ih =>
    obtain ⟨found, w₁, hget, hsame, hfound⟩ := getDisk_cases c n w
    unfold makeDisks
    rw [bind_eq]
    rcases hfound with ⟨hn, d, rfl⟩ | ⟨hn, e, rfl, he⟩ | ⟨hfails, e, rfl, he⟩
    · have hspares : Spares [⟨.cloud c.group.account c.group.name (.getDisk n), .ok d⟩] w w₁ :=
        .unmissed hsame rfl
      rw [asked_find?_of_ok hget, run_find?_of_ok hget]
      exact (ih k w₁).cons hspares (hspares.there n hn)
    · have hmissed : missed [⟨.cloud c.group.account c.group.name (.getDisk n), .error e⟩] = [n] :=
        missed_of_missing he
      have hspares :
          Spares [⟨.cloud c.group.account c.group.name (.getDisk n), .error e⟩] w w₁ := by
        refine .of_same hsame fun hw m hm => ?_
        rw [hmissed, List.mem_singleton] at hm
        rw [hm]
        exact hn hw
      rw [asked_find?_of_missing he hget, run_find?_of_missing he hget]
      dsimp only
      cases hzone : zones[k % zones.length]? with
      | none =>
        exact ⟨hspares, fun hzones => absurd (nextZone_eq_none.1 hzone) hzones, fun _ => rfl⟩
      | some zone =>
        obtain ⟨put, w₂, hput, hwritten⟩ :=
          putDisk_cases c n (newDisk c zone (contentFor snapshots n)) w₁
        dsimp only
        unfold ResourceGroup.call
        rw [bind_eq]
        rcases hwritten with ⟨hwritten, op, rfl⟩ | ⟨hfails, hsame', e', rfl⟩
        · rw [asked_call_of_ok hput, run_call_of_ok hput]
          have hmade := hspares.written (by rw [hmissed]; exact List.mem_singleton_self n) hwritten
            [⟨.cloud c.group.account c.group.name
              (.putDisk n (newDisk c zone (contentFor snapshots n))), .ok op⟩] rfl
          -- The disk that was missed is there now, and the others are as they were.
          exact (ih (k + 1) w₂).cons hmade hwritten.there
        · rw [asked_call_of_error hput, run_call_of_error hput]
          have hrefused : Spares [⟨.cloud c.group.account c.group.name
              (.putDisk n (newDisk c zone (contentFor snapshots n))), .error e'⟩] w₁ w₂ :=
            .unmissed hsame' rfl
          exact .failed (hspares.trans hrefused) _ (by rwa [hsame.failures] at hfails)
    · have hmissed : missed [⟨.cloud c.group.account c.group.name (.getDisk n), .error e⟩] = [] :=
        missed_of_unknown he
      rw [asked_find?_of_error he hget, run_find?_of_error he hget]
      exact .failed (.unmissed hsame hmissed) _ hfails

/-- Making the missing disks of the first members, in memory. -/
theorem completed_ensureDisks (c : AzureConfig) (count : Nat) (zones : List String) (w : World) :
    Completed zones (memberDisks count) w (asked World.handler (ensureDisks c count zones) w)
      (run World.handler (ensureDisks c count zones) w).1
      (run World.handler (ensureDisks c count zones) w).2 := by
  obtain ⟨listed, w₁, hlist, hsame, hlisted⟩ := listSnapshots_cases c w
  unfold ensureDisks ResourceGroup.call
  rw [bind_eq]
  rcases hlisted with ⟨snapshots, rfl⟩ | ⟨hfails, e, rfl⟩
  · have hspares : Spares [⟨.cloud c.group.account c.group.name .listSnapshots, .ok snapshots⟩] w
        w₁ :=
      .unmissed hsame rfl
    have hrest := completed_makeDisks c zones snapshots 0 (memberDisks count) w₁
    rw [asked_call_of_ok hlist, run_call_of_ok hlist]
    exact ⟨hspares.trans hrest.spares, hrest.there, fun hw => hrest.calm (hsame.failures.trans hw)⟩
  · have hspares : Spares [⟨.cloud c.group.account c.group.name .listSnapshots, .error e⟩] w w₁ :=
      .unmissed hsame rfl
    rw [asked_call_of_error hlist, run_call_of_error hlist]
    exact .failed hspares _ hfails

/-! ## Whatever is answered -/

/-- Whether the calls of a run for the first members and its end list the snapshots and then fill
the gaps. -/
def ListsAndFills (c : AzureConfig) (count : Nat) (zones : List String) :
    Except AzureError (List Snapshot) → List Asked → Except Error Unit → Prop
  | .error e, trace, r =>
    trace = [⟨.cloud c.group.account c.group.name .listSnapshots, .error e⟩] ∧ r = .error (.azure e)
  | .ok snapshots, trace, r => ∃ rest,
    trace = ⟨.cloud c.group.account c.group.name .listSnapshots, .ok snapshots⟩ :: rest ∧
      Fills c zones snapshots 0 (memberDisks count) rest r

/-- Making the missing disks of the first members, whatever is answered. -/
theorem listsAndFills_ensureDisks {ω : Type} (h : Handler ω) (c : AzureConfig) (count : Nat)
    (zones : List String) (w : ω) :
    ListsAndFills c count zones (h.answer (.cloud c.group.account c.group.name .listSnapshots) w).1
      (asked h (ensureDisks c count zones) w) (run h (ensureDisks c count zones) w).1 := by
  cases hlist : h.answer (.cloud c.group.account c.group.name .listSnapshots) w with
  | mk listed w₁ =>
    unfold ensureDisks ResourceGroup.call
    rw [bind_eq]
    cases listed with
    | error e => exact ⟨asked_call_of_error hlist, congrArg Prod.fst (run_call_of_error hlist)⟩
    | ok snapshots =>
      refine ⟨_, asked_call_of_ok hlist, ?_⟩
      rw [run_call_of_ok hlist]
      exact (filling_makeDisks h c zones snapshots 0 (memberDisks count) w₁).fills

/-- A run makes no disk that it did not miss. -/
theorem ListsAndFills.made_eq_nil {count : Nat} {listed : Except AzureError (List Snapshot)}
    {trace : List Asked} {r : Except Error Unit} (h : ListsAndFills c count zones listed trace r)
    (hmissed : ∀ n ∈ memberDisks count, n ∉ missed trace) : made trace = [] := by
  cases listed with
  | error e =>
    obtain ⟨rfl, -⟩ := h
    rfl
  | ok snapshots =>
    obtain ⟨rest, rfl, hfills⟩ := h
    by_cases hzones : zones = []
    · exact hfills.noZone hzones
    · have hnone : (made rest).map Prod.fst = [] := by
        refine List.eq_nil_iff_forall_not_mem.2 fun n hn => ?_
        have hmem := hfills.order.subset hn
        rw [hfills.missed hzones] at hn
        exact hmissed n hmem hn
      exact List.map_eq_nil_iff.1 hnone

/-- **Which disks are made.** Making the missing disks of the first members lists the snapshots and
then fills the gaps and does nothing else, whatever is answered. In memory the disks that were not
missed stay as they were; these are all disks that were there, unless the look-ups are made to fail
as if the disks were missing. The end is good when nothing is made to fail; and after a good end
with zones the next run makes nothing, whatever else is made to fail, as long as no disk has gone
and the look-ups show the disks. -/
theorem fills_gaps (c : AzureConfig) (count : Nat) (zones : List String) :
    (∀ {ω : Type} (h : Handler ω) (w : ω),
      ListsAndFills c count zones (h.answer
        (.cloud c.group.account c.group.name .listSnapshots) w).1
        (asked h (ensureDisks c count zones) w) (run h (ensureDisks c count zones) w).1) ∧
    ∀ w w' : World, w' = (run World.handler (ensureDisks c count zones) w).2 →
      (∀ n d, w.cluster.disks.get? n = some d →
        n ∉ missed (asked World.handler (ensureDisks c count zones) w) →
        w'.cluster.disks.get? n = some d) ∧
      (w.ShowsDisks → ∀ n d, w.cluster.disks.get? n = some d → w'.cluster.disks.get? n = some d) ∧
      (w.cluster.failures = .empty → (run World.handler (ensureDisks c count zones) w).1 = .ok ()) ∧
      (zones ≠ [] → (run World.handler (ensureDisks c count zones) w).1 = .ok () →
        ∀ w'' zones', w''.ShowsDisks → (∀ n, There w' n → There w'' n) →
          made (asked World.handler (ensureDisks c count zones') w'') = []) := by
  refine ⟨fun h w => listsAndFills_ensureDisks h c count zones w, ?_⟩
  rintro w _ rfl
  have hfirst := completed_ensureDisks c count zones w
  refine ⟨hfirst.spares.kept, fun hw n d hd => ?_, hfirst.calm,
    fun hzones hr w'' zones' hw'' hthere => ?_⟩
  · exact hfirst.spares.kept n d hd (hfirst.spares.shown hw n ⟨d, hd⟩)
  · have hsecond := completed_ensureDisks c count zones' w''
    refine (listsAndFills_ensureDisks World.handler c count zones' w'').made_eq_nil fun n hn => ?_
    exact hsecond.spares.shown hw'' n (hthere n (hfirst.there hzones hr n hn))

/-- A world with the disk of the first member. -/
def gapWorld : World :=
  { cluster := { id := "sub-tenant", disks := Dict.empty.insert "etcd1" strandedDisk },
    template := .null }

/-- Of three disks the two that are missing are made in two zones, the third one stays, and nothing
is left to make. -/
theorem fills_gaps_two :
    gapWorld.ShowsDisks ∧
      (run World.handler (ensureDisks smallCluster 3 ["2", "3"]) gapWorld).1 = .ok () ∧
      (made (asked World.handler (ensureDisks smallCluster 3 ["2", "3"]) gapWorld)).map
        (fun x => (x.1, x.2.zones)) = [("etcd2", ["2"]), ("etcd3", ["3"])] ∧
      (run World.handler (ensureDisks smallCluster 3 ["2", "3"]) gapWorld).2.cluster.disks.get?
        "etcd1" = some strandedDisk ∧
      made (asked World.handler (ensureDisks smallCluster 3 ["2", "3"])
        (run World.handler (ensureDisks smallCluster 3 ["2", "3"]) gapWorld).2) = [] := by
  have hshows : gapWorld.ShowsDisks := by
    unfold World.ShowsDisks
    decide
  obtain ⟨-, hstays, hcalm, hagain⟩ := (fills_gaps smallCluster 3 ["2", "3"]).2 gapWorld _ rfl
  have hend := hcalm rfl
  have hshows' :
      (run World.handler (ensureDisks smallCluster 3 ["2", "3"]) gapWorld).2.ShowsDisks := by
    unfold World.ShowsDisks
    decide +kernel
  exact ⟨hshows, hend, by decide +kernel,
    hstays hshows "etcd1" strandedDisk (Dict.get?_insert_self _ _ _),
    hagain (List.cons_ne_nil _ _) hend _ _ hshows' fun _ hn => hn⟩

end Etcd

end TenantFleet
