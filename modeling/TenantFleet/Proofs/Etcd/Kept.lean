/-
# The data of a disk is kept

The data of a disk is on the disk as long as that is there, and in the snapshot that is named after
it when it is not. Each of the four requests that write or delete disks and snapshots keeps this
under a condition of its own, which is what the passes have to see to.

* `Kept` : the data of a disk is on it, or in its snapshot;
* `Saved` : the snapshot of a disk that is there holds what the disk holds;
* `Kept.putDisk`, `Kept.putSnapshot`, `Kept.deleteDisk`, `Kept.deleteSnapshot` : what keeps the
  data.
-/
import TenantFleet.Proofs.Etcd.Contents

namespace TenantFleet.Etcd

variable {κ : Type} {group n m : String} {d : κ} {s : Subscription} {k : Contents κ}
  {σ σ' : World × Contents κ}

/-! ## Tags of snapshots -/

/-- Whether a snapshot was taken from a disk can be told from its label. -/
theorem isSnapshotOf_of_label {x y : Snapshot} (h : y.label = x.label) (disk : String) :
    isSnapshotOf disk y = isSnapshotOf disk x := by
  simp only [isSnapshotOf, isMemberSnapshot, Snapshot.hasTag, Snapshot.tags_eq_of_label h]

/-- A snapshot of a disk is tagged with its name. -/
theorem tag_of_isSnapshotOf {x : Snapshot} {disk : String} (h : isSnapshotOf disk x = true) :
    x.tags.get? Tag.snapshotDisk = some disk := by
  simp only [isSnapshotOf, Snapshot.hasTag, Bool.and_eq_true, decide_eq_true_eq] at h
  exact h.2

/-- The tag that says which disk a copy is of. -/
theorem get?_snapshotDisk_snapshot (location : String) (source : Option String) (disk : String) :
    (snapshot location source disk).tags.get? Tag.snapshotDisk = some disk :=
  Dict.get?_insert_self roleTags _ _

/-- A copy of a disk is marked as a snapshot of it. -/
theorem isSnapshotOf_snapshot (location : String) (source : Option String) (disk : String) :
    isSnapshotOf disk (snapshot location source disk) = true := by
  have hrole : (snapshot location source disk).tags.get? Tag.diskRole = some Tag.etcdRole := by
    show (roleTags.insert Tag.snapshotDisk disk).get? Tag.diskRole = some Tag.etcdRole
    rw [Dict.get?_insert_of_ne _ _ (by decide : Tag.snapshotDisk ≠ Tag.diskRole)]
    exact Dict.get?_insert_self _ _ _
  simp only [isSnapshotOf, isMemberSnapshot, Snapshot.hasTag, hrole, get?_snapshotDisk_snapshot,
    decide_true, Bool.and_self]

/-! ## Kept and saved data -/

/-- Whether the data of a disk is on it, or in the snapshot named after it when the disk is
not there. -/
structure Kept (group n : String) (d : κ) (s : Subscription) (k : Contents κ) : Prop where
  labelled : s.Labelled group
  onDisk : ∀ {disk}, s.disks.get? n = some disk → k (diskId s.id group n) = d
  copied : s.disks.get? n = none → ∃ x, s.snapshots.get? (Name.snapshotOf n) = some x ∧
    isSnapshotOf n x = true ∧ k (s.snapshotId group (Name.snapshotOf n)) = d

/-- Whether the snapshot of a disk that is there holds what the disk holds. -/
structure Saved (group m : String) (s : Subscription) (k : Contents κ) : Prop where
  present : ∃ disk, s.disks.get? m = some disk
  copied : ∃ x, s.snapshots.get? (Name.snapshotOf m) = some x ∧ isSnapshotOf m x = true ∧
    k (s.snapshotId group (Name.snapshotOf m)) = k (diskId s.id group m)

/-- What others do keeps the data. -/
theorem Kept.elsewhere (h : Kept group n d σ.1.cluster σ.2) (move : World.Elsewhere σ σ') :
    Kept group n d σ'.1.cluster σ'.2 := by
  obtain ⟨labels, contents⟩ := move
  rw [contents]
  refine ⟨labels.labelled h.labelled, ?_, ?_⟩
  · intro disk hdisk
    obtain ⟨disk', hdisk', -⟩ := labels.symm.disk hdisk
    rw [labels.id]
    exact h.onDisk hdisk'
  · intro hnone
    have hnone' : σ.1.cluster.disks.get? n = none := by
      have := labels.disks n
      rw [hnone] at this
      simpa using this.symm
    obtain ⟨x, hx, htags, hd⟩ := h.copied hnone'
    obtain ⟨x', hx', hlabel⟩ := labels.snapshot hx
    refine ⟨x', hx', ?_, ?_⟩
    · rw [isSnapshotOf_of_label hlabel]
      exact htags
    · rw [labels.snapshotId]
      exact hd

/-- What others do leaves a saved disk saved. -/
theorem Saved.elsewhere (h : Saved group m σ.1.cluster σ.2) (move : World.Elsewhere σ σ') :
    Saved group m σ'.1.cluster σ'.2 := by
  obtain ⟨labels, contents⟩ := move
  obtain ⟨⟨disk, hdisk⟩, x, hx, htags, hk⟩ := h
  obtain ⟨disk', hdisk', -⟩ := labels.disk hdisk
  obtain ⟨x', hx', hlabel⟩ := labels.snapshot hx
  rw [contents]
  refine ⟨⟨disk', hdisk'⟩, x', hx', ?_, ?_⟩
  · rw [isSnapshotOf_of_label hlabel]
    exact htags
  · rw [labels.snapshotId, labels.id]
    exact hk

/-! ## Writing disks -/

/-- A disk that was stored has the ID of its name. -/
theorem labelled_putDisk (h : s.Labelled group) (m : String) (value : Disk) :
    (s.putDisk group m value).Labelled group := by
  refine ⟨?_, h.snapshot, h.tagged⟩
  intro n' disk hdisk
  simp only [Subscription.putDisk] at hdisk ⊢
  rw [Dict.get?_insert] at hdisk
  by_cases hm : m = n'
  · rw [if_pos hm] at hdisk
    subst hm
    cases hold : s.disks.get? m with
    | some old =>
      rw [hold] at hdisk
      rw [← Option.some.inj hdisk]
      rfl
    | none =>
      rw [hold] at hdisk
      rw [← Option.some.inj hdisk]
      rfl
  · rw [if_neg hm] at hdisk
    exact h.disk hdisk

/-- Storing a disk keeps the data when a missing disk is made from its snapshot. -/
theorem Kept.putDisk (h : Kept group n d s k) (fresh : CreationData → κ) (value : Disk)
    (hcopy : m = n → s.disks.get? n = none →
      value.creation = ⟨.copy, some (s.snapshotId group (Name.snapshotOf n))⟩) :
    Kept group n d (s.putDisk group m value) (k.after fresh s group (.putDisk m value)) := by
  have hget : ∀ n', m ≠ n' → (s.putDisk group m value).disks.get? n' = s.disks.get? n' :=
    fun n' hm => Dict.get?_insert_of_ne _ _ hm
  refine ⟨labelled_putDisk h.labelled m value, ?_, ?_⟩
  · intro disk hdisk
    show k.after fresh s group (.putDisk m value) (diskId s.id group n) = d
    cases hm : s.disks.get? m with
    | some old =>
      -- An update; if it is of another disk, that of `n` was there before.
      rw [Contents.after_putDisk_of_some fresh group value k hm]
      by_cases hmn : m = n
      · subst hmn
        exact h.onDisk hm
      · rw [hget n hmn] at hdisk
        exact h.onDisk hdisk
    | none =>
      rw [Contents.after_putDisk_of_none fresh group value k hm]
      by_cases hmn : m = n
      · subst hmn
        obtain ⟨x, hx, -, hd⟩ := h.copied hm
        have hid : x.id = some (s.snapshotId group (Name.snapshotOf m)) :=
          (h.labelled.snapshot hx).1
        have hsource : s.hasResource (s.snapshotId group (Name.snapshotOf m)) :=
          Or.inr ⟨x, Dict.mem_values.2 ⟨_, hx⟩, hid⟩
        rw [hcopy rfl hm, Contents.made_copy fresh k hsource, Contents.set_self]
        exact hd
      · rw [hget n hmn] at hdisk
        have hids :
            diskId s.id group n ≠ diskId s.id group m := fun e => hmn (diskId_injective e).symm
        rw [Contents.set_of_ne _ _ hids]
        exact h.onDisk hdisk
  · intro hnone
    have hmn : m ≠ n := by
      rintro rfl
      simp [Subscription.putDisk] at hnone
    rw [hget n hmn] at hnone
    obtain ⟨x, hx, htags, hd⟩ := h.copied hnone
    refine ⟨x, hx, htags, ?_⟩
    show k.after fresh s group (.putDisk m value) (s.snapshotId group (Name.snapshotOf n)) = d
    cases hm : s.disks.get? m with
    | some old =>
      rw [Contents.after_putDisk_of_some fresh group value k hm]
      exact hd
    | none =>
      rw [Contents.after_putDisk_of_none fresh group value k hm,
        Contents.set_of_ne _ _ (s.diskId_ne_snapshotId group m _).symm]
      exact hd

/-! ## Copying disks to snapshots -/

/-- A copy of a disk that was stored has the ID of its name. -/
theorem labelled_putSnapshot (h : s.Labelled group) (location : String) (source : Option String)
    (m : String) :
    (s.putSnapshot group (Name.snapshotOf m) (snapshot location source m)).Labelled group := by
  refine ⟨h.disk, ?_, ?_⟩
  · intro n' x hx
    simp only [Subscription.putSnapshot] at hx
    rw [Dict.get?_insert] at hx
    by_cases hm : Name.snapshotOf m = n'
    · rw [if_pos hm] at hx
      subst hm
      rw [← Option.some.inj hx]
      exact ⟨rfl, rfl⟩
    · rw [if_neg hm] at hx
      exact h.snapshot hx
  · intro n' x m' hx hm'
    simp only [Subscription.putSnapshot] at hx
    rw [Dict.get?_insert] at hx
    by_cases hm : Name.snapshotOf m = n'
    · rw [if_pos hm] at hx
      rw [← Option.some.inj hx] at hm'
      have htag := get?_snapshotDisk_snapshot location source m
      rw [← hm, ← Option.some.inj (hm'.symm.trans htag)]
    · rw [if_neg hm] at hx
      exact h.tagged hx hm'

/-- Copying a disk to its snapshot keeps the data of every disk. -/
theorem Kept.putSnapshot (h : Kept group n d s k) (fresh : CreationData → κ) (location : String)
    (source : Option String) (hm : ∃ disk, s.disks.get? m = some disk) :
    Kept group n d (s.putSnapshot group (Name.snapshotOf m) (snapshot location source m))
      (k.after fresh s group (.putSnapshot (Name.snapshotOf m) (snapshot location source m))) := by
  refine ⟨labelled_putSnapshot h.labelled location source m, ?_, ?_⟩
  · intro disk hdisk
    show Contents.set k _ _ (diskId s.id group n) = d
    rw [Contents.set_of_ne _ _ (s.diskId_ne_snapshotId group n _)]
    exact h.onDisk hdisk
  · -- The disk that is copied is there, so this one is another.
    intro hnone
    obtain ⟨disk, hdisk⟩ := hm
    have hmn : Name.snapshotOf m ≠ Name.snapshotOf n := by
      intro e
      rw [snapshotOf_injective e] at hdisk
      have hnone' : s.disks.get? n = none := hnone
      rw [hnone'] at hdisk
      cases hdisk
    obtain ⟨x, hx, htags, hd⟩ := h.copied hnone
    refine ⟨x, ?_, htags, ?_⟩
    · show (s.snapshots.insert _ _).get? _ = _
      rw [Dict.get?_insert_of_ne _ _ hmn]
      exact hx
    · show Contents.set k (s.snapshotId group _) _ (s.snapshotId group (Name.snapshotOf n)) = d
      have hids : s.snapshotId group (Name.snapshotOf n) ≠ s.snapshotId group (Name.snapshotOf m) :=
        fun e => hmn ((String.append_right_inj _).1 (Subscription.resourceId_injective e)).symm
      rw [Contents.set_of_ne _ _ hids]
      exact hd

/-- A disk that was copied to its snapshot is saved. -/
theorem saved_putSnapshot (h : s.Labelled group) (fresh : CreationData → κ) (k : Contents κ)
    (location : String) {disk : Disk} (hm : s.disks.get? m = some disk) :
    Saved group m
      (s.putSnapshot group (Name.snapshotOf m) (snapshot location (some (diskId s.id group m)) m))
      (k.after fresh s group
        (.putSnapshot (Name.snapshotOf m) (snapshot location (some (diskId s.id group m)) m))) := by
  refine ⟨⟨disk, hm⟩, _, Dict.get?_insert_self _ _ _,
    isSnapshotOf_snapshot location (some (diskId s.id group m)) m, ?_⟩
  have hsource : s.hasResource (diskId s.id group m) := by
    have hid : disk.id = some (diskId s.id group m) := (Prod.mk.inj (h.disk hm)).1
    exact Or.inl ⟨disk, Dict.mem_values.2 ⟨m, hm⟩, hid⟩
  show Contents.set k (s.snapshotId group _) _ (s.snapshotId group _)
    = Contents.set k _ _ (diskId s.id group m)
  rw [Contents.set_self, Contents.set_of_ne _ _ (s.diskId_ne_snapshotId group m _)]
  exact Contents.made_copy fresh k hsource

/-! ## Deletions -/

/-- Deleting a saved disk keeps the data of every disk. -/
theorem Kept.deleteDisk (h : Kept group n d s k) (hm : Saved group m s k) :
    Kept group n d { s with disks := s.disks.erase m } k := by
  have hget : ∀ n', m ≠ n' → (s.disks.erase m).get? n' = s.disks.get? n' :=
    fun n' hmn => Dict.get?_erase_of_ne _ hmn
  refine ⟨⟨?_, h.labelled.snapshot, h.labelled.tagged⟩, ?_, ?_⟩
  · intro n' disk hdisk
    by_cases hmn : m = n'
    · subst hmn
      rw [Dict.get?_erase_self] at hdisk
      cases hdisk
    · rw [hget n' hmn] at hdisk
      exact h.labelled.disk hdisk
  · intro disk hdisk
    by_cases hmn : m = n
    · subst hmn
      rw [Dict.get?_erase_self] at hdisk
      cases hdisk
    · rw [hget n hmn] at hdisk
      exact h.onDisk hdisk
  · intro hnone
    by_cases hmn : m = n
    · subst hmn
      obtain ⟨⟨disk, hdisk⟩, x, hx, htags, hk⟩ := hm
      exact ⟨x, hx, htags, hk.trans (h.onDisk hdisk)⟩
    · rw [hget n hmn] at hnone
      exact h.copied hnone

/-- Deleting a snapshot keeps the data of a disk that is there. -/
theorem Kept.deleteSnapshot (h : Kept group n d s k) {name : String}
    (hserved : name = Name.snapshotOf n → ∃ disk, s.disks.get? n = some disk) :
    Kept group n d { s with snapshots := s.snapshots.erase name } k := by
  have hold :
      ∀ {n' x}, (s.snapshots.erase name).get? n' = some x → s.snapshots.get? n' = some x := by
    intro n' x hx
    rw [Dict.get?_erase] at hx
    split at hx
    · cases hx
    · exact hx
  refine ⟨⟨h.labelled.disk, fun hx => h.labelled.snapshot (hold hx),
    fun hx htag => h.labelled.tagged (hold hx) htag⟩, h.onDisk, ?_⟩
  intro hnone
  have hname : name ≠ Name.snapshotOf n := by
    intro e
    obtain ⟨disk, hdisk⟩ := hserved e
    have hnone' : s.disks.get? n = none := hnone
    rw [hnone'] at hdisk
    cases hdisk
  obtain ⟨x, hx, htags, hd⟩ := h.copied hnone
  refine ⟨x, ?_, htags, hd⟩
  rw [Dict.get?_erase_of_ne _ hname]
  exact hx

end TenantFleet.Etcd
