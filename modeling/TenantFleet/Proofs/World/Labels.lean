/-
# What disks and snapshots are known by

A disk is known by its ID and its name, a snapshot also by its tags. Few requests change any of
that: all others are frames for it, whatever they do to the rest of a subscription.

* `Subscription.Labelled` : every disk and snapshot has the ID of its name, and the snapshots of a
  disk have the name made from it;
* `Subscription.SameLabels` : nothing has come, gone or got another label;
* `Subscription.sameLabels_answer` : what all but four kinds of requests leave alone.
-/
import TenantFleet.Label
import TenantFleet.Proofs.Data.Dict
import TenantFleet.Proofs.World.Answer

namespace TenantFleet

/-! ## Names and IDs -/

/-- Snapshots of one name were taken from disks of one name. -/
theorem snapshotOf_injective {a b : String} (h : Name.snapshotOf a = Name.snapshotOf b) : a = b :=
  (String.append_left_inj _).1 h

/-- Disks of a group with one ID have one name. -/
theorem diskId_injective {subscription group a b : String}
    (h : diskId subscription group a = diskId subscription group b) : a = b :=
  (String.append_right_inj _).1 h

namespace Subscription

/-- The ID of a snapshot. -/
def snapshotId (s : Subscription) (group name : String) : String :=
  s.resourceId group ("Microsoft.Compute/snapshots/" ++ name)

/-- Resources of a group with one ID have one path. -/
theorem resourceId_injective {s : Subscription} {group a b : String}
    (h : s.resourceId group a = s.resourceId group b) : a = b :=
  (String.append_right_inj _).1 h

/-- The ID of a disk as one of all resources. -/
theorem diskId_eq_resourceId (s : Subscription) (group name : String) :
    diskId s.id group name = s.resourceId group ("Microsoft.Compute/disks/" ++ name) := by
  have hpath : "/providers/Microsoft.Compute/disks/"
      = "/providers/" ++ "Microsoft.Compute/disks/" := by decide +kernel
  unfold diskId resourceId
  rw [hpath, ← String.append_assoc, ← String.append_assoc]

/-- The paths of disks and of snapshots differ before the names begin. -/
theorem diskPath_ne_snapshotPath (a b : String) :
    "Microsoft.Compute/disks/" ++ a ≠ "Microsoft.Compute/snapshots/" ++ b := by
  intro h
  have h' := congrArg (fun t => t.toList[18]?) h
  simp only [String.toList_append] at h'
  rw [List.getElem?_append_left (by decide +kernel),
    List.getElem?_append_left (by decide +kernel)] at h'
  revert h'
  decide +kernel

/-- No disk has the ID of a snapshot. -/
theorem diskId_ne_snapshotId (s : Subscription) (group a b : String) :
    diskId s.id group a ≠ s.snapshotId group b := by
  intro h
  rw [diskId_eq_resourceId] at h
  exact diskPath_ne_snapshotPath a b (resourceId_injective h)

end Subscription

/-! ## Labels -/

/-- What a disk is known by. -/
def Disk.label (d : Disk) : Option String × String := (d.id, d.name)

/-- What a snapshot is known by. -/
def Snapshot.label (x : Snapshot) : Option String × String × Dict String := (x.id, x.name, x.tags)

/-- Snapshots of one label have one name. -/
theorem Snapshot.name_eq_of_label {x y : Snapshot} (h : y.label = x.label) : y.name = x.name :=
  (Prod.mk.inj (Prod.mk.inj h).2).1

/-- Snapshots of one label have the same tags. -/
theorem Snapshot.tags_eq_of_label {x y : Snapshot} (h : y.label = x.label) : y.tags = x.tags :=
  (Prod.mk.inj (Prod.mk.inj h).2).2

namespace Subscription

/-- Whether the disks and snapshots of a subscription are those of a group, under their names, and
every snapshot is named after the disk it is tagged with. -/
structure Labelled (s : Subscription) (group : String) : Prop where
  disk : ∀ {n d}, s.disks.get? n = some d → d.label = (some (diskId s.id group n), n)
  snapshot : ∀ {n x}, s.snapshots.get? n = some x →
    x.id = some (s.snapshotId group n) ∧ x.name = n
  tagged : ∀ {n x m}, s.snapshots.get? n = some x → x.tags.get? Tag.snapshotDisk = some m →
    n = Name.snapshotOf m

/-- Whether two subscriptions have the same disks and snapshots, up to what these are not
known by. -/
structure SameLabels (s s' : Subscription) : Prop where
  id : s'.id = s.id
  disks : ∀ n, (s'.disks.get? n).map Disk.label = (s.disks.get? n).map Disk.label
  snapshots :
    ∀ n, (s'.snapshots.get? n).map Snapshot.label = (s.snapshots.get? n).map Snapshot.label

namespace SameLabels

variable {s s' s'' : Subscription}

theorem refl (s : Subscription) : SameLabels s s := ⟨rfl, fun _ => rfl, fun _ => rfl⟩

theorem symm (h : SameLabels s s') : SameLabels s' s :=
  ⟨h.id.symm, fun n => (h.disks n).symm, fun n => (h.snapshots n).symm⟩

theorem trans (h : SameLabels s s') (h' : SameLabels s' s'') : SameLabels s s'' :=
  ⟨h'.id.trans h.id, fun n => (h'.disks n).trans (h.disks n),
    fun n => (h'.snapshots n).trans (h.snapshots n)⟩

/-- A disk is still there. -/
theorem disk (h : SameLabels s s') {n : String} {d : Disk} (hd : s.disks.get? n = some d) :
    ∃ d', s'.disks.get? n = some d' ∧ d'.label = d.label := by
  have := h.disks n
  rw [hd, Option.map_some] at this
  simpa using this

/-- A snapshot is still there. -/
theorem snapshot (h : SameLabels s s') {n : String} {x : Snapshot}
    (hx : s.snapshots.get? n = some x) :
    ∃ x', s'.snapshots.get? n = some x' ∧ x'.label = x.label := by
  have := h.snapshots n
  rw [hx, Option.map_some] at this
  simpa using this

/-- The IDs of snapshots stay. -/
theorem snapshotId (h : SameLabels s s') (group n : String) :
    s'.snapshotId group n = s.snapshotId group n := by
  unfold Subscription.snapshotId resourceId
  rw [h.id]

/-- Labels that are as they should be stay so. -/
theorem labelled (h : SameLabels s s') {group : String} (hs : s.Labelled group) :
    s'.Labelled group where
  disk := by
    intro n d' hd'
    obtain ⟨d, hd, hlabel⟩ := h.symm.disk hd'
    rw [← hlabel, hs.disk hd, h.id]
  snapshot := by
    intro n x' hx'
    obtain ⟨x, hx, hlabel⟩ := h.symm.snapshot hx'
    have hid : x'.id = x.id := (Prod.mk.inj hlabel).1.symm
    rw [hid, ← Snapshot.name_eq_of_label hlabel, h.snapshotId]
    exact hs.snapshot hx
  tagged := by
    intro n x' m hx' hm
    obtain ⟨x, hx, hlabel⟩ := h.symm.snapshot hx'
    rw [← Snapshot.tags_eq_of_label hlabel] at hm
    exact hs.tagged hx hm

end SameLabels

end Subscription

/-! ## Requests that are frames -/

/-- Whether a request writes or deletes no disk and no snapshot. -/
def CloudCall.keepsLabels : CloudCall → Prop
  | .putDisk _ _ | .deleteDisk _ | .putSnapshot _ _ | .deleteSnapshot _ => False
  | _ => True

/-- Whether a call writes or deletes no disk and no snapshot of the cluster. -/
def Call.keepsLabels : Call → Prop
  | .cloud (.cluster _) _ c => c.keepsLabels
  | _ => True

namespace Subscription

/-- The disks that an instance names get an owner, and nothing else. -/
theorem map_setOwner {β : Type} {view : Disk → β} (owner : Option String) (names : List String)
    (disks : Dict Disk) (n : String)
    (hview : ∀ d : Disk, view { d with managedBy := owner } = view d) :
    ((names.foldl (fun d name => d.modify name fun disk => { disk with managedBy := owner })
      disks).get? n).map view = (disks.get? n).map view := by
  induction names generalizing disks with
  | nil => rfl
  | cons name rest ih =>
    rw [List.foldl_cons, ih]
    exact Dict.map_get?_modify disks name n hview

/-- Performing a request that is a frame. -/
theorem sameLabels_perform (s : Subscription) (group : String) {c : CloudCall}
    (hc : c.keepsLabels) :
    SameLabels s (s.perform group c).2 := by
  cases c with
  | putDisk name value => exact hc.elim
  | deleteDisk name => exact hc.elim
  | putSnapshot name value => exact hc.elim
  | deleteSnapshot name => exact hc.elim
  | putInstance scaleSet inst value =>
    simp only [perform]
    split
    · exact ⟨rfl, fun n => map_setOwner _ _ _ n fun _ => rfl, fun _ => rfl⟩
    · exact .refl s
  | _ => exact ⟨rfl, fun _ => rfl, fun _ => rfl⟩

/-- A request that was only written down changed nothing else. -/
theorem sameLabels_logged (s : Subscription) (c : CloudCall) : SameLabels s (s.logged c) :=
  ⟨rfl, fun _ => rfl, fun _ => rfl⟩

/-- A request that is a frame leaves the labels, whether it fails or not. -/
theorem sameLabels_answer (s : Subscription) (group : String) {c : CloudCall} (hc : c.keepsLabels) :
    SameLabels s (s.answer group c).2 := by
  rcases s.answer_cases group c with ⟨e, h⟩ | h
  · rw [h]
    exact s.sameLabels_logged c
  · rw [h]
    exact (s.sameLabels_logged c).trans (sameLabels_perform _ group hc)

end Subscription

/-- A call that is a frame leaves the labels of the subscription of the cluster. -/
theorem World.sameLabels_answer (w : World) {c : Call} (hc : c.keepsLabels) :
    Subscription.SameLabels w.cluster (World.answer c w).2.cluster := by
  by_cases h : ∃ secret group k, c = .cloud (.cluster secret) group k
  · obtain ⟨secret, group, k, rfl⟩ := h
    exact w.cluster.sameLabels_answer group hc
  · rw [w.cluster_answer fun secret group k e => h ⟨secret, group, k, e⟩]
    exact .refl _

end TenantFleet
