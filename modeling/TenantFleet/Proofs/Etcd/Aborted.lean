/-
# A pass that fails in a move

A pass moves a disk in six steps, and any of them may fail. The step that a pass has failed at says
what has become of the disks: the one that was moved is ready, hidden or missing, and nothing has
happened to the others.

* `Stocked` : which disks are hidden, and that the others are ready or missing;
* `full_iff_ready` : what the count of the disks says about them;
* `leftHidden` : what a pass leaves hidden, given the step that it has failed at;
* `moving_migrateDisk`, `moving_attachDisks` : a move, and the second half of a pass.
-/
import Mathlib.Data.List.Perm.Subperm
import TenantFleet.Proofs.Etcd.Stock

namespace TenantFleet

open Program Program.Safe

/-- What a pass counts disks by. -/
def Disk.stock (d : Disk) : String × Dict String × Option String :=
  (d.name, d.tags, d.provisioningState)

namespace Etcd

variable {α : Type} {c : AzureConfig} {version : String} {asked : List Asked} {w w' : World}
  {s s' : Subscription} {n : String} {d : Disk} {hid hid' : String → Prop}

/-! ## What has become of the disks -/

/-- A disk that is hidden is not ready. -/
theorem Hidden.not_ready (h : Hidden s n) : ¬ Ready s n := by
  rintro ⟨d, hd, hmember, -⟩
  obtain ⟨d', hd', hhidden⟩ := h
  cases hd.symm.trans hd'
  rw [hmember] at hhidden
  cases hhidden

/-- What is counted by the same is found by the same name. -/
theorem exists_of_stock (h : (s'.disks.get? n).map Disk.stock = (s.disks.get? n).map Disk.stock)
    (hd : s.disks.get? n = some d) :
    ∃ d', s'.disks.get? n = some d' ∧ d'.name = d.name ∧ isMemberDisk d' = isMemberDisk d ∧
      d'.succeeded = d.succeeded := by
  rw [hd, Option.map_some] at h
  obtain ⟨d', hd', hstock⟩ := Option.map_eq_some_iff.1 h
  obtain ⟨hname, hrest⟩ := Prod.mk.inj hstock
  obtain ⟨htags, hstate⟩ := Prod.mk.inj hrest
  refine ⟨d', hd', hname, ?_, ?_⟩
  · unfold isMemberDisk Disk.hasTag
    rw [htags]
  · unfold Disk.succeeded
    rw [hstate]

/-- Disks that are counted by the same are ready alike. -/
theorem Ready.congr (hready : Ready s n)
    (h : (s'.disks.get? n).map Disk.stock = (s.disks.get? n).map Disk.stock) : Ready s' n := by
  obtain ⟨d, hd, hmember, hsucceeded⟩ := hready
  obtain ⟨d', hd', -, hmember', hsucceeded'⟩ := exists_of_stock h hd
  exact ⟨d', hd', hmember'.trans hmember, hsucceeded'.trans hsucceeded⟩

/-- And hidden alike. -/
theorem Hidden.congr (hhidden : Hidden s n)
    (h : (s'.disks.get? n).map Disk.stock = (s.disks.get? n).map Disk.stock) : Hidden s' n := by
  obtain ⟨d, hd, hmember⟩ := hhidden
  obtain ⟨d', hd', -, hmember', -⟩ := exists_of_stock h hd
  exact ⟨d', hd', hmember'.trans hmember⟩

/-- What has become of the disks of the members: those of some names are hidden, the others are
ready or missing. -/
structure Stocked (c : AzureConfig) (hid : String → Prop) (s : Subscription) : Prop where
  named : ∀ n d, s.disks.get? n = some d → d.name = n
  only : ∀ n, Ready s n → n ∈ disksOf c
  hidden : ∀ n, hid n → n ∈ disksOf c ∧ Hidden s n
  others : ∀ n ∈ disksOf c, ¬ hid n → Ready s n ∨ s.disks.get? n = none

namespace Stocked

/-- What disks are counted by says what has become of them. -/
theorem congr (h : Stocked c hid s)
    (hsame : ∀ n, (s'.disks.get? n).map Disk.stock = (s.disks.get? n).map Disk.stock) :
    Stocked c hid s' where
  named n d hd := by
    obtain ⟨d', hd', hname, -⟩ := exists_of_stock (hsame n).symm hd
    exact hname.symm.trans (h.named n d' hd')
  only n hn := h.only n (hn.congr (hsame n).symm)
  hidden n hn := ⟨(h.hidden n hn).1, (h.hidden n hn).2.congr (hsame n)⟩
  others n hn hnot := by
    refine (h.others n hn hnot).imp (fun hready => hready.congr (hsame n)) fun hmissing => ?_
    have hnone := hsame n
    rw [hmissing] at hnone
    exact Option.map_eq_none_iff.1 hnone

/-- When one disk of a member has changed, it is hidden now or it is not. -/
theorem update (h : Stocked c hid s) (hmem : n ∈ disksOf c)
    (hother : ∀ m, m ≠ n → s'.disks.get? m = s.disks.get? m) (hhid : ∀ m, m ≠ n → (hid' m ↔ hid m))
    (hname : ∀ d, s'.disks.get? n = some d → d.name = n)
    (hself : (hid' n ∧ Hidden s' n) ∨ (¬ hid' n ∧ (Ready s' n ∨ s'.disks.get? n = none))) :
    Stocked c hid' s' := by
  have hsame : ∀ m, m ≠ n → (s'.disks.get? m).map Disk.stock = (s.disks.get? m).map Disk.stock :=
    fun m hne => congrArg (Option.map Disk.stock) (hother m hne)
  refine ⟨fun m d hd => ?_, fun m hm => ?_, fun m hm => ?_, fun m hm hnot => ?_⟩
  · by_cases heq : m = n
    · subst heq
      exact hname d hd
    · exact h.named m d ((hother m heq).symm.trans hd)
  · by_cases heq : m = n
    · rw [heq]
      exact hmem
    · exact h.only m (hm.congr (hsame m heq).symm)
  · by_cases heq : m = n
    · subst heq
      rcases hself with ⟨-, hhidden⟩ | ⟨hnot, -⟩
      · exact ⟨hmem, hhidden⟩
      · exact absurd hm hnot
    · obtain ⟨hmem', hhidden⟩ := h.hidden m ((hhid m heq).1 hm)
      exact ⟨hmem', hhidden.congr (hsame m heq)⟩
  · by_cases heq : m = n
    · subst heq
      rcases hself with ⟨hyes, -⟩ | ⟨-, hthere⟩
      · exact absurd hyes hnot
      · exact hthere
    · rw [hother m heq]
      exact (h.others m hm fun hhid' => hnot ((hhid m heq).2 hhid')).imp_left
        fun hready => hready.congr (hsame m heq)

/-- A disk that loses its tags is hidden. -/
theorem hide (h : Stocked c hid s) (hready : Ready s n) (hd : s.disks.get? n = some d)
    (group : String) :
    Stocked c (fun m => hid m ∨ m = n) (s.putDisk group n { d with tags := .empty }) := by
  have hself := get?_putDisk_of_some group { d with tags := .empty } hd
  refine h.update (h.only n hready) (fun m hne => get?_putDisk_of_ne hne.symm)
    (fun m hne => or_iff_left hne) (fun d' hd' => ?_) (Or.inl ⟨Or.inr rfl, _, hself, rfl⟩)
  cases hself.symm.trans hd'
  rfl

/-- A hidden disk that is deleted is missing. -/
theorem delete (h : Stocked c (fun m => hid m ∨ m = n) s) (hn : ¬ hid n) :
    Stocked c hid { s with disks := s.disks.erase n } := by
  have hself : (s.disks.erase n).get? n = none := Dict.get?_erase_self _ _
  refine h.update (h.hidden n (Or.inr rfl)).1 (fun m hne => Dict.get?_erase_of_ne _ hne.symm)
    (fun m hne => (or_iff_left hne).symm) (fun d hd => ?_) (Or.inr ⟨hn, Or.inr hself⟩)
  cases hself.symm.trans hd

/-- Disks that were missing and are made are ready. -/
theorem fill (h : Stocked c hid w.cluster) (hfilled : Filled (disksOf c) w w') :
    Stocked c hid w'.cluster where
  named n d hd := (hfilled.named n d hd).elim (h.named n d) id
  only n hn := by
    by_contra hmem
    have hsame := congrArg (Option.map Disk.stock) (hfilled.others n hmem)
    exact hmem (h.only n (hn.congr hsame.symm))
  hidden n hn := by
    obtain ⟨hmem, d, hd, hmember⟩ := h.hidden n hn
    exact ⟨hmem, d, hfilled.kept n d hd, hmember⟩
  others n hn hnot := by
    refine Or.inl ?_
    rcases h.others n hn hnot with ⟨d, hd, hready⟩ | hmissing
    · exact ⟨d, hfilled.kept n d hd, hready⟩
    · exact hfilled.made n hn hmissing

end Stocked

/-! ## Counting disks -/

/-- The names of the disks that count. -/
def readyNames (s : Subscription) : List String :=
  ((s.disks.values.filter isMemberDisk).filter Disk.succeeded).map Disk.name

theorem mem_readyNames (hnamed : ∀ n d, s.disks.get? n = some d → d.name = n) :
    n ∈ readyNames s ↔ Ready s n := by
  unfold readyNames Ready
  rw [List.mem_map]
  constructor
  · rintro ⟨d, hd, rfl⟩
    obtain ⟨hd, hsucceeded⟩ := List.mem_filter.1 hd
    obtain ⟨hd, hmember⟩ := List.mem_filter.1 hd
    obtain ⟨key, hkey⟩ := Dict.mem_values.1 hd
    rw [hnamed key d hkey]
    exact ⟨d, hkey, hmember, hsucceeded⟩
  · rintro ⟨d, hd, hmember, hsucceeded⟩
    exact ⟨d, List.mem_filter.2 ⟨List.mem_filter.2 ⟨Dict.mem_values.2 ⟨n, hd⟩, hmember⟩,
      hsucceeded⟩, hnamed n d hd⟩

/-- Disks that stand under their names have different ones. -/
theorem nodup_names (hnamed : ∀ n d, s.disks.get? n = some d → d.name = n) :
    (s.disks.values.map Disk.name).Nodup := by
  have hkeys : s.disks.values.map Disk.name = s.disks.entries.map Prod.fst := by
    unfold Dict.values
    rw [List.map_map]
    exact List.map_congr_left fun e he => hnamed e.1 e.2 (Dict.mem_entries.1 he)
  rw [hkeys]
  refine List.Pairwise.map _ (fun a b hlt heq => ?_) s.disks.sorted
  rw [heq] at hlt
  exact String.lt_irrefl _ hlt

theorem nodup_readyNames (hnamed : ∀ n d, s.disks.get? n = some d → d.name = n) :
    (readyNames s).Nodup :=
  ((List.filter_sublist.trans List.filter_sublist).map Disk.name).nodup (nodup_names hnamed)

/-- The members have different disks. -/
theorem nodup_disksOf (c : AzureConfig) : (disksOf c).Nodup := by
  have hle : memberCount c.masterCount ≤ 3 := Nat.le_trans (memberCount_le _) (Nat.min_le_right _ _)
  unfold disksOf
  generalize memberCount c.masterCount = count at hle
  match count, hle with
  | 0, _ => decide
  | 1, _ => decide
  | 2, _ => decide +kernel
  | 3, _ => decide +kernel

/-- As many disks count as there are names. -/
theorem full_iff (c : AzureConfig) (s : Subscription) :
    Full c s ↔ (readyNames s).length = (disksOf c).length := by
  unfold Full readyNames
  rw [List.countP_eq_length_filter, List.length_map, length_disksOf]

/-- Of two lists without repetition, the second is part of the first one when it is not longer and
the first is part of it. -/
theorem subset_of_length_le {l l' : List String} (hl : l.Nodup) (hsub : l ⊆ l')
    (hlength : l'.length ≤ l.length) : l' ⊆ l :=
  ((List.subperm_of_subset hl hsub).perm_of_length_le hlength).symm.subset

/-- When no other disks are ready, as many as there are members are ready exactly when all of these
are. -/
theorem full_iff_ready (h : Stocked c hid s) : Full c s ↔ ∀ n ∈ disksOf c, Ready s n := by
  have hsub : readyNames s ⊆ disksOf c := fun n hn => h.only n ((mem_readyNames h.named).1 hn)
  rw [full_iff]
  constructor
  · intro hlength n hn
    exact (mem_readyNames h.named).1
      (subset_of_length_le (nodup_readyNames h.named) hsub (Nat.le_of_eq hlength.symm) hn)
  · intro hready
    have hsub' : disksOf c ⊆ readyNames s := fun n hn => (mem_readyNames h.named).2 (hready n hn)
    exact Nat.le_antisymm ((List.subperm_of_subset (nodup_readyNames h.named) hsub).length_le)
      ((List.subperm_of_subset (nodup_disksOf c) hsub').length_le)

/-- When all disks of the members are ready and no more, there are no others. -/
theorem stocked_of_full (hnamed : ∀ n d, s.disks.get? n = some d → d.name = n)
    (hready : ∀ n ∈ disksOf c, Ready s n) (hfull : Full c s) : Stocked c (fun _ => False) s where
  named := hnamed
  only n hn := by
    have hsub : disksOf c ⊆ readyNames s := fun n hn => (mem_readyNames hnamed).2 (hready n hn)
    refine subset_of_length_le (nodup_disksOf c) hsub ?_ ((mem_readyNames hnamed).2 hn)
    exact Nat.le_of_eq ((full_iff c s).1 hfull)
  hidden _ hn := hn.elim
  others n hn _ := Or.inl (hready n hn)

/-! ## What is left hidden -/

/-- Whether nothing is missing but disks, and what has become of these. -/
structure Orderly (c : AzureConfig) (version : String) (hid : String → Prop)
    (w : World) : Prop extends Equipped c version w where
  stocked : Stocked c hid w.cluster

/-- What differs in nothing that counts is as orderly. -/
theorem Alike.orderly (h : Alike w w') (hw : Orderly c version hid w) :
    Orderly c version hid w' where
  toEquipped := h.equipped hw.toEquipped
  stocked := by
    refine hw.stocked.congr fun n => ?_
    rw [h.disks]

/-- The disks that are hidden when a step of the move of one more fails. -/
def leaves (hid : String → Prop) (step : MoveStep) (n : String) : String → Prop :=
  if step.strands then fun m => hid m ∨ m = n else hid

/-- The disks that are hidden after a pass, given those that were. -/
def leftHidden (hid : String → Prop) (asked : List Asked) : String → Prop :=
  match abortedAt asked with
  | some (step, n) => leaves hid step n
  | none => hid

theorem leftHidden_of_none (h : abortedAt asked = none) : leftHidden hid asked = hid := by
  unfold leftHidden
  rw [h]

theorem leftHidden_of_some {step : MoveStep} (h : abortedAt asked = some (step, n)) :
    leftHidden hid asked = leaves hid step n := by
  unfold leftHidden
  rw [h]

/-- What is hidden stays so. -/
theorem leftHidden_of_hid (asked : List Asked) (h : hid n) : leftHidden hid asked n := by
  cases habort : abortedAt asked with
  | none =>
    rw [leftHidden_of_none habort]
    exact h
  | some aborted =>
    rw [leftHidden_of_some habort]
    unfold leaves
    split
    · exact Or.inl h
    · exact h

/-- How a part of a pass ends: well, with the disks as they were, or with what is left of a move. -/
abbrev Tidies (c : AzureConfig) (version : String) (hid : String → Prop) :
    List Asked → World → Except Error α → Prop :=
  Ends (fun asked w _ => Orderly c version hid w ∧ abortedAt asked = none)
    fun asked w => Orderly c version (leftHidden hid asked) w

/-- A look is no step of a move. -/
theorem moves_of_looks {call : Call} (h : Looks call) : call.moves = false := by
  cases call with
  | cloud account group k => exact h.2
  | ensureCertConfig config => rfl
  | findBundle clusterId cert => rfl
  | _ => exact h.elim

/-- A program that only looks leaves the disks. -/
theorem moving_of_looks {p : Program α} (hp : Asks Looks p) (hw : Orderly c version hid w)
    (hnone : abortedAt asked = none) :
    Safe World.moving .none (Tidies c version hid) p asked w := by
  have hnote : ∀ event w, Alike w (World.moving.note event w) := by
    intro event w
    exact ⟨⟨rfl, rfl, rfl, rfl, rfl, rfl⟩, rfl⟩
  have hkeeps := of_asksEnds (E := World.moving) (D := .none)
    (I := fun asked w => Orderly c version hid w ∧ abortedAt asked = none) hp ⟨hw, hnone⟩
    (fun _ _ _ => trivial) (fun _ _ _ _ _ => trivial)
    (fun asked w event h => ⟨(hnote event w).orderly h.1, h.2⟩)
    (fun asked w call r w' hcall h turn => ⟨(alike_of_looks hcall h.1.toEquipped turn).orderly h.1,
      abortedAt_of_not_moves asked (moves_of_looks hcall) r⟩)
  refine hkeeps.mono ?_
  rintro asked w (e | a) - h
  · show Orderly c version (leftHidden hid asked) w
    rw [leftHidden_of_none h.2]
    exact h.1
  · exact h

/-! ## Moving a disk -/

/-- A step of a move has its effect, or fails and leaves what was there. -/
theorem moving_step {k : CloudCall} (step : MoveStep) (hw : Orderly c version (leaves hid step n) w)
    (hk : begun (.cloud c.group.account c.group.name k) = some (step, n))
    (hr : ∃ a, ((w.cluster.logged k).perform c.group.name k).1 = .ok a)
    (heffect : Orderly c version hid'
      { w with cluster := ((w.cluster.logged k).perform c.group.name k).2 }) :
    Safe World.moving .none
      (Ends (fun asked' w' a => Orderly c version hid' w' ∧
          asked' = asked ++ [⟨.cloud c.group.account c.group.name k, .ok a⟩])
        fun asked' w' => Orderly c version (leftHidden hid asked') w')
      (c.group.call k) asked w := by
  refine callEnds trivial trivial fun r w' turn => ?_
  rcases turn_cases hw.cloudCalm turn with ⟨rfl, rfl⟩ | ⟨-, ⟨e, rfl⟩, halike⟩
  · obtain ⟨a, ha⟩ := hr
    rw [ha]
    refine ⟨trivial, fun a' ha' => ?_, fun e he => (by cases he)⟩
    cases ha'
    exact ⟨heffect, rfl⟩
  · refine ⟨trivial, fun a ha => (by cases ha), fun _ _ => ?_⟩
    rw [leftHidden_of_some (abortedAt_error asked hk e)]
    exact halike.orderly hw

/-- Waiting for the end of a step. -/
theorem moving_wait {call : Call} {a : call.Answer} (step : MoveStep)
    (hw : Orderly c version (leaves hid step n) w) (hcall : awaited call = some (step, n))
    (operation : Operation) :
    Safe World.moving .none
      (Ends (fun asked' w' _ => Orderly c version (leaves hid step n) w' ∧ abortedAt asked' = none)
        fun asked' w' => Orderly c version (leftHidden hid asked') w')
      (c.group.wait operation) (asked ++ [⟨call, .ok a⟩]) w := by
  refine callEnds trivial trivial fun r w' turn => ?_
  rcases turn_cases hw.cloudCalm turn with ⟨rfl, rfl⟩ | ⟨-, ⟨e, rfl⟩, halike⟩
  · refine ⟨trivial, fun _ _ => ⟨?_, abortedAt_ok _ _ _⟩, fun e he => (by cases he)⟩
    exact (alike_perform w _ (k := .wait operation) trivial).orderly hw
  · refine ⟨trivial, fun a ha => (by cases ha), fun _ _ => ?_⟩
    rw [leftHidden_of_some (abortedAt_wait asked hcall a _ _ operation e)]
    exact halike.orderly hw

/-- Writing a ready disk without its tags hides it. -/
theorem Orderly.hide (hw : Orderly c version hid w) (hd : w.cluster.disks.get? n = some d)
    (hready : Ready w.cluster n) (group : String) :
    Orderly c version (fun m => hid m ∨ m = n) { w with
      cluster := (w.cluster.logged (.putDisk n { d with tags := .empty })).putDisk group n
        { d with tags := .empty } } where
  toEquipped := Beside.equipped (w := w) ⟨rfl, rfl, rfl, rfl, rfl, rfl⟩ hw.toEquipped
  stocked := by
    have hlogged : Stocked c hid (w.cluster.logged (.putDisk n { d with tags := .empty })) :=
      hw.stocked.congr fun _ => rfl
    exact hlogged.hide hready hd group

/-- Deleting a hidden disk leaves it missing. -/
theorem Orderly.delete (hw : Orderly c version (fun m => hid m ∨ m = n) w) (hn : ¬ hid n) :
    Orderly c version hid { w with
      cluster := { w.cluster.logged (.deleteDisk n) with disks := w.cluster.disks.erase n } } where
  toEquipped := Beside.equipped (w := w) ⟨rfl, rfl, rfl, rfl, rfl, rfl⟩ hw.toEquipped
  stocked := by
    have hlogged : Stocked c (fun m => hid m ∨ m = n) (w.cluster.logged (.deleteDisk n)) :=
      hw.stocked.congr fun _ => rfl
    exact hlogged.delete hn

/-- The move of a ready disk leaves it missing, or what the step that fails leaves of it. -/
theorem moving_migrateDisk (hw : Orderly c version hid w)
    (hd : w.cluster.disks.get? d.name = some d) (hready : Ready w.cluster d.name) :
    Safe World.moving .none (Tidies c version hid) (migrateDisk c d) asked w := by
  have hnot : ¬ hid d.name := fun h => (hw.stocked.hidden _ h).2.not_ready hready
  have hsource : sourceOf (snapshot d.location d.id d.name) = d.name := by
    unfold sourceOf
    rw [get?_snapshotDisk_snapshot]
    rfl
  have hcopy : ∀ account group name, begun (.cloud account group
      (.putSnapshot name (snapshot d.location d.id d.name))) = some (.copy, d.name) :=
    fun _ _ _ => congrArg (fun n => some (MoveStep.copy, n)) hsource
  have hawait : ∀ account group name, awaited (.cloud account group
      (.putSnapshot name (snapshot d.location d.id d.name))) = some (.awaitCopy, d.name) :=
    fun _ _ _ => congrArg (fun n => some (MoveStep.awaitCopy, n)) hsource
  -- What a step leaves when it fails is what the one before it has left.
  refine Safe.andThen (moving_step .hide hw rfl ⟨_, rfl⟩ (hw.hide hd hready _)) ?_
  rintro asked₁ w₁ operation - ⟨hw₁, rfl⟩
  refine (moving_wait .awaitHiding hw₁ rfl operation).andThen ?_
  rintro asked₂ w₂ - - ⟨hw₂, -⟩
  refine Safe.andThen (moving_step .copy hw₂ (hcopy _ _ _) ⟨_, rfl⟩
    ((alike_perform w₂ _ (k := .putSnapshot _ _) trivial).orderly hw₂)) ?_
  rintro asked₃ w₃ operation - ⟨hw₃, rfl⟩
  refine (moving_wait .awaitCopy hw₃ (hawait _ _ _) operation).andThen ?_
  rintro asked₄ w₄ - - ⟨hw₄, -⟩
  refine Safe.andThen (moving_step .delete hw₄ rfl ⟨_, rfl⟩ (Orderly.delete hw₄ hnot)) ?_
  rintro asked₅ w₅ operation - ⟨hw₅, rfl⟩
  exact moving_wait .awaitDeletion hw₅ rfl operation

/-! ## Giving masters their disks -/

/-- Looking for a disk leaves the disks, or what is left of the one that is moved. -/
theorem moving_findAvailableDisk (hw : Orderly c version hid w) (zone : String) :
    Safe World.moving .none (Tidies c version hid) (findAvailableDisk c zone) asked w := by
  refine (moving_request (k := .listDisks) (Q := fun asked w' l => l = w'.cluster.disks.values ∧
    Orderly c version hid w' ∧ abortedAt asked = none) hw.toEquipped ⟨trivial, rfl⟩ rfl
    fun asked w' halike hnone => ⟨?_, halike.orderly hw, hnone⟩).andThen ?_
  · rw [halike.disks]
    rfl
  rintro asked₁ w₁ l - ⟨rfl, hw₁, hnone₁⟩
  cases hchoice : chooseDisk zone w₁.cluster.disks.values with
  | use d => exact Safe.pure trivial ⟨hw₁, hnone₁⟩
  | move d =>
    obtain ⟨hmem, hfree⟩ := free_of_move hchoice
    obtain ⟨key, hkey⟩ := Dict.mem_values.1 hmem
    have hname : d.name = key := hw₁.stocked.named key d hkey
    rw [← hname] at hkey
    have hready : Ready w₁.cluster d.name := by
      unfold isFree at hfree
      simp only [Bool.and_eq_true] at hfree
      exact ⟨d, hkey, hfree.1.1, hfree.1.2⟩
    refine (moving_migrateDisk hw₁ hkey hready).andThen ?_
    intro asked₂ w₂ _ _ hw₂
    exact Safe.pure trivial hw₂
  | nothing => exact Safe.pure trivial ⟨hw₁, hnone₁⟩

/-- Changing the first instance of an ID adds none. -/
theorem length_modifyFirst (inst : String) (f : Instance → Instance) (l : List Instance) :
    (Subscription.modifyFirst inst f l).length = l.length := by
  induction l with
  | nil => rfl
  | cons v rest ih =>
    rw [Subscription.modifyFirst]
    split
    · rfl
    · rw [List.length_cons, List.length_cons, ih]

/-- An instance is one that was there, or the one that was changed. -/
theorem mem_modifyFirst {inst : String} {f : Instance → Instance} {l : List Instance} {v : Instance}
    (hv : v ∈ Subscription.modifyFirst inst f l) : v ∈ l ∨ ∃ u ∈ l, v = f u := by
  induction l with
  | nil => cases hv
  | cons u rest ih =>
    rw [Subscription.modifyFirst] at hv
    split at hv
    · rcases List.mem_cons.1 hv with rfl | hv
      · exact Or.inr ⟨u, List.mem_cons_self, rfl⟩
      · exact Or.inl (List.mem_cons_of_mem _ hv)
    · rcases List.mem_cons.1 hv with rfl | hv
      · exact Or.inl List.mem_cons_self
      · rcases ih hv with hv | ⟨u', hu', rfl⟩
        · exact Or.inl (List.mem_cons_of_mem _ hv)
        · exact Or.inr ⟨u', List.mem_cons_of_mem _ hu', rfl⟩

/-- The instances of a scale set after one of some scale set was written. -/
theorem instancesOf_putInstance (s : Subscription) (scaleSet inst name : String)
    (value : Instance) :
    (s.putInstance scaleSet inst value).instancesOf name = if scaleSet = name then
      Subscription.modifyFirst inst (fun v =>
        { v with storage := value.storage, tags := value.tags }) (s.instancesOf name)
      else s.instancesOf name := by
  unfold Subscription.instancesOf Subscription.putInstance Dict.getD
  dsimp only
  rw [Dict.get?_modify]
  split
  · rename_i heq
    subst heq
    cases s.instances.get? scaleSet <;> rfl
  · rfl

/-- Writing a master that keeps its version keeps what a pass needs. -/
theorem Equipped.putInstance (hw : Equipped c version w) {value : Instance}
    (htag : value.hasTag Tag.operatorVersion version = true) (scaleSet inst : String) :
    Equipped c version { w with
      cluster := (w.cluster.logged (.putInstance scaleSet inst value)).putInstance scaleSet inst
        value } where
  calm := hw.calm
  cloudCalm := hw.cloudCalm
  newState := hw.newState
  scaleSet := hw.scaleSet
  masters := by
    intro v hv
    rw [mastersIn, instancesOf_putInstance] at hv
    split at hv
    · rcases mem_modifyFirst hv with hv | ⟨u, hu, rfl⟩
      · exact hw.masters v hv
      · exact ⟨(hw.masters u hu).1, htag⟩
    · exact hw.masters v hv
  count := by
    rw [mastersIn, instancesOf_putInstance]
    split
    · rw [length_modifyFirst]
      exact hw.count
    · exact hw.count
  certs := hw.certs

/-- And what is there. -/
theorem Orderly.putInstance (hw : Orderly c version hid w) {value : Instance}
    (htag : value.hasTag Tag.operatorVersion version = true) (scaleSet inst : String) :
    Orderly c version hid { w with
      cluster := (w.cluster.logged (.putInstance scaleSet inst value)).putInstance scaleSet inst
        value } where
  toEquipped := hw.toEquipped.putInstance htag scaleSet inst
  stocked := hw.stocked.congr fun n => Subscription.map_setOwner _ _ _ n fun _ => rfl

/-- Giving a master a disk leaves the disks where they are. -/
theorem moving_putInstance (hw : Orderly c version hid w) (value : Instance)
    (htag : value.hasTag Tag.operatorVersion version = true) (scaleSet inst : String) :
    Safe World.moving .none (Tidies c version hid) (c.group.call (.putInstance scaleSet inst value))
      asked w := by
  refine callEnds trivial trivial fun r w' turn => ?_
  have hnone := abortedAt_of_not_moves asked rfl r
  have hw' : Orderly c version hid w' := by
    rcases turn_cases hw.cloudCalm turn with ⟨-, rfl⟩ | ⟨hmoves, -, -⟩
    · unfold Subscription.perform
      dsimp only
      split
      · exact hw.putInstance htag scaleSet inst
      · exact Alike.orderly (w := w) ⟨⟨rfl, rfl, rfl, rfl, rfl, rfl⟩, rfl⟩ hw
    · cases hmoves
  refine ⟨trivial, fun _ _ => ⟨hw', hnone⟩, fun _ _ => ?_⟩
  rw [leftHidden_of_none hnone]
  exact hw'

/-- Giving a master its disk. -/
theorem moving_ensureMember {v : Instance} (hw : Orderly c version hid w)
    (hnone : abortedAt asked = none)
    (htag : v.hasTag Tag.operatorVersion version = true) (subscription : String) :
    Safe World.moving .none (Tidies c version hid) (ensureMember c subscription v) asked w := by
  unfold ensureMember
  split
  · refine (moving_findAvailableDisk hw _).andThen ?_
    intro asked₁ w₁ disk _ hw₁
    split
    · exact Safe.pure trivial hw₁
    · refine (moving_putInstance hw₁.1 (v.attach diskUnit disk _) htag _ _).andThen ?_
      intro asked₂ w₂ _ _ hw₂
      exact Safe.pure trivial hw₂
  · exact Safe.pure trivial ⟨hw, hnone⟩

/-- Starting a member only looks. -/
theorem looks_of_starting {call : Call} (h : Starting call) : Looks call := by
  cases call with
  | cloud account group k =>
    cases k with
    | getInterface scaleSet inst name => exact ⟨trivial, rfl⟩
    | getRecord zone name => exact ⟨trivial, rfl⟩
    | putRecord zone name value => exact ⟨trivial, rfl⟩
    | runCommand scaleSet inst command => exact ⟨trivial, rfl⟩
    | _ => exact h.elim
  | findBundle clusterId cert => trivial
  | _ => exact h.elim

/-- Giving all masters of a list their disks. -/
theorem moving_attachAll {l : List Instance} (hw : Orderly c version hid w)
    (hnone : abortedAt asked = none) (htags : ∀ v ∈ l, v.hasTag Tag.operatorVersion version = true)
    (subscription : String) (entries : List String) :
    Safe World.moving .none (Tidies c version hid) (attachAll c subscription entries l)
      asked w := by
  induction l generalizing entries asked w with
  | nil => exact Safe.pure trivial ⟨hw, hnone⟩
  | cons v rest ih =>
    have hrest : ∀ u ∈ rest, u.hasTag Tag.operatorVersion version = true :=
      fun u hu => htags u (List.mem_cons_of_mem _ hu)
    rw [attachAll]
    split
    · refine (moving_ensureMember hw hnone (htags v List.mem_cons_self) subscription).andThen ?_
      rintro asked₁ w₁ member - ⟨hw₁, hnone₁⟩
      split
      · exact ih hw₁ hnone₁ hrest entries
      · have hlooks := (asks_startMember c v.instanceId member entries).mono fun _ =>
          looks_of_starting
        refine (moving_of_looks hlooks hw₁ hnone₁).andThen ?_
        rintro asked₂ w₂ entries₂ - ⟨hw₂, hnone₂⟩
        exact ih hw₂ hnone₂ hrest entries₂
    · exact ih hw hnone hrest entries

/-- Giving the masters of a cluster their disks. -/
theorem moving_attachDisks (hw : Orderly c version hid w) (subscription : String) :
    Safe World.moving .none (Tidies c version hid) (attachDisks c subscription) asked w := by
  refine (moving_find? (k := .listInstances (Name.masterScaleSet c.clusterId))
    (some (mastersIn c w.cluster)) ""
    (Q := fun asked w' found => found = some (mastersIn c w.cluster) ∧ Orderly c version hid w' ∧
      abortedAt asked = none) hw.toEquipped ⟨trivial, rfl⟩ (perform_listInstances hw.toEquipped _)
    fun _ _ halike hnone => ⟨rfl, halike.orderly hw, hnone⟩).andThen ?_
  rintro asked₁ w₁ found - ⟨rfl, hw₁, hnone₁⟩
  exact moving_attachAll hw₁ hnone₁ (fun v hv => (hw.masters v hv).2) subscription []

/-! ## The pass -/

/-- Deleting the snapshots that have served leaves the disks. -/
theorem asks_cleanSnapshots (c : AzureConfig) : Asks Looks (cleanSnapshots c) := by
  refine .bind (.groupCall ⟨trivial, rfl⟩) fun l => .forEach fun x => ?_
  unfold cleanSnapshot
  split
  · trivial
  · split
    · refine .bind (.find? ⟨trivial, rfl⟩) fun found => ?_
      split
      · split
        · exact .bind (.groupCall ⟨trivial, rfl⟩) fun _ => trivial
        · trivial
      · trivial
    · trivial

/-- A pass that finds everything leaves the disks, or what is left of the one that is moved. -/
theorem moving_ensureMembers_of_full (hw : Orderly c version hid w) (hnone : abortedAt asked = none)
    (hfull : Full c w.cluster) (subscription : String) :
    Safe World.moving .none (Tidies c version hid) (ensureMembers c subscription version)
      asked w := by
  refine (moving_verifyPrerequisites hw.toEquipped hnone).andThen ?_
  rintro asked₁ w₁ ready - ⟨⟨-, rfl, halike⟩ | ⟨hnot, -, -⟩, hnone₁⟩
  · refine (moving_attachDisks (halike.orderly hw) subscription).andThen ?_
    rintro asked₂ w₂ - - ⟨hw₂, hnone₂⟩
    exact moving_of_looks (asks_cleanSnapshots c) hw₂ hnone₂
  · exact absurd hfull hnot

/-- A pass that does not find everything makes what is missing. -/
theorem moving_ensureMembers_of_not_full {F : List Asked → World → Prop} (hw : Equipped c version w)
    (hnone : abortedAt asked = none) (hnot : ¬ Full c w.cluster) (subscription : String) :
    Safe World.moving .none
      (Ends (fun asked w' _ => Refilled c (zonesLeft c version w.cluster) w w' ∧
        abortedAt asked = none) F) (ensureMembers c subscription version) asked w := by
  refine (moving_verifyPrerequisites hw hnone).andThen ?_
  rintro asked₁ w₁ ready - ⟨⟨hfull, -, -⟩ | ⟨-, rfl, hrefilled⟩, hnone₁⟩
  · exact absurd hfull hnot
  · exact Safe.pure trivial ⟨hrefilled, hnone₁⟩

end Etcd

end TenantFleet
