/-
# No pass loses the data of a member

Passes make disks, hide and copy and delete them, make them again from their snapshots and delete
those, and any pass may be given up between two calls. Whatever fails and however the passes follow
each other, the data that a disk held at the beginning is on a disk or a snapshot of its name at
every moment.

* `preserving` : what the passes are held to, at every moment and when they delete something;
* `safe_makeDisks`, `safe_migrateDisk`, `safe_cleanSnapshot` : the programs that write or delete;
* `data_preserved` : all moments of all passes.
-/
import TenantFleet.Etcd.Pass
import TenantFleet.Proofs.Etcd.Choice
import TenantFleet.Proofs.Etcd.Kept
import TenantFleet.World.Stock

namespace TenantFleet.Etcd

open Program Program.Safe

variable {α κ : Type} {fresh : CreationData → κ} {group n m : String} {d : κ} {asked : List Asked}
  {σ σ' : World × Contents κ}

/-! ## What the passes are held to -/

/-- Whether a disk of a name holds the data. -/
def DiskHolds (s : Subscription) (k : Contents κ) (n : String) (d : κ) : Prop :=
  ∃ disk ∈ s.disks.values, disk.name = n ∧ ∃ id, disk.id = some id ∧ k id = d

/-- Whether a snapshot that is marked as one of a disk holds the data. -/
def SnapshotHolds (s : Subscription) (k : Contents κ) (n : String) (d : κ) : Prop :=
  ∃ x ∈ s.snapshots.values, isSnapshotOf n x = true ∧ ∃ id, x.id = some id ∧ k id = d

/-- Whether the last calls copied the resource of an ID to the snapshot of a disk, and waited for
the copy. -/
def Copied (account : Account) (group id m : String) (asked : List Asked) : Prop :=
  ∃ (x : Snapshot) (operation : Operation), x.creation = ⟨.copy, some id⟩ ∧
    [⟨.cloud account group (.putSnapshot (Name.snapshotOf m) x), .ok operation⟩,
      ⟨.cloud account group (.wait operation), .ok ()⟩] <:+ asked

/-- Whether a snapshot is not of a disk, or the disk holds the data. -/
def Served (s : Subscription) (k : Contents κ) (n : String) (d : κ) (name : String) : Prop :=
  ∀ x, s.snapshots.get? name = some x → x.tags.get? Tag.snapshotDisk = some n → DiskHolds s k n d

/-- What the passes over a group are held to: the data of a disk is kept, disks are deleted right
after they were copied, and snapshots of the disk while it holds the data. -/
def preserving (group n : String) (d : κ) : Demand (World × Contents κ) where
  always _ σ := Kept group n d σ.1.cluster σ.2
  issue asked σ c :=
    match c with
    | .cloud (.cluster secret) g (.deleteDisk m) =>
      Copied (.cluster secret) g (diskId σ.1.cluster.id group m) m asked
    | .cloud (.cluster _) _ (.deleteSnapshot name) => Served σ.1.cluster σ.2 n d name
    | _ => True

/-- A disk that is there holds the data that is kept. -/
theorem Kept.diskHolds {s : Subscription} {k : Contents κ} (h : Kept group n d s k) {disk : Disk}
    (hdisk : s.disks.get? n = some disk) : DiskHolds s k n d := by
  have hlabel := Prod.mk.inj (h.labelled.disk hdisk)
  exact ⟨disk, Dict.mem_values.2 ⟨n, hdisk⟩, hlabel.2, _, hlabel.1, h.onDisk hdisk⟩

/-- Data that is kept is on a disk or a snapshot. -/
theorem Kept.holds {s : Subscription} {k : Contents κ} (h : Kept group n d s k) :
    DiskHolds s k n d ∨ SnapshotHolds s k n d := by
  cases hdisk : s.disks.get? n with
  | some disk => exact Or.inl (h.diskHolds hdisk)
  | none =>
    obtain ⟨x, hx, htags, hd⟩ := h.copied hdisk
    exact Or.inr ⟨x, Dict.mem_values.2 ⟨_, hx⟩, htags, _, (h.labelled.snapshot hx).1, hd⟩

/-- The data of a disk is kept as long as nothing was done. -/
theorem kept_of_diskHolds {s : Subscription} {k : Contents κ} (hs : s.Labelled group)
    (h : DiskHolds s k n d) :
    Kept group n d s k := by
  obtain ⟨disk, hmem, hname, id, hid, hd⟩ := h
  obtain ⟨key, hkey⟩ := Dict.mem_values.1 hmem
  have hlabel := Prod.mk.inj (hs.disk hkey)
  -- A disk of that name has its key and its ID.
  have hkeyn : key = n := hlabel.2.symm.trans hname
  subst hkeyn
  have hids : id = diskId s.id group key := Option.some.inj (hid.symm.trans hlabel.1)
  subst hids
  refine ⟨hs, fun _ => hd, ?_⟩
  intro hnone
  rw [hkey] at hnone
  cases hnone

/-! ## Calls that are frames -/

/-- Whether a fact about worlds does not depend on what others may do. -/
def Steady (I : World × Contents κ → Prop) : Prop := ∀ σ σ', World.Elsewhere σ σ' → I σ → I σ'

/-- Calls that are frames are always allowed. -/
theorem issue_of_keepsLabels {c : Call} (hc : c.keepsLabels) :
    (preserving group n d).issue asked σ c := by
  unfold preserving
  dsimp only
  split
  · exact hc.elim
  · exact hc.elim
  · trivial

/-- Programs that make only calls that are frames are safe, and steady facts hold after them. -/
theorem safe_of_keepsLabels {I : World × Contents κ → Prop} (hsteady : Steady I) {p : Program α}
    (hp : Asks Call.keepsLabels p) (hkept : Kept group n d σ.1.cluster σ.2) (hI : I σ) :
    Safe (World.unsteady fresh) (preserving group n d) (Well fun _ σ _ => I σ) p asked σ := by
  have h : Safe (World.unsteady fresh) (preserving group n d)
      (Well fun _ σ _ => Kept group n d σ.1.cluster σ.2 ∧ I σ) p asked σ := by
    refine of_asks hp ⟨hkept, hI⟩ (fun _ _ h => h.1)
      (fun _ _ c hc _ => issue_of_keepsLabels hc) ?_ ?_
    · -- Events are nothing to a subscription.
      intro _ σ event h
      have move : World.Elsewhere σ ((World.unsteady fresh).note event σ) :=
        ⟨⟨rfl, fun _ => rfl, fun _ => rfl⟩, rfl⟩
      exact ⟨h.1.elsewhere move, hsteady _ _ move h.2⟩
    · intro _ σ c r σ' hc h turn
      have move := World.elsewhere_of_answers hc turn
      exact ⟨h.1.elsewhere move, hsteady _ _ move h.2⟩
  refine h.mono ?_
  rintro _ _ (e | a) _ hQ
  · trivial
  · exact hQ.2

/-- The same for programs whose results do not matter. -/
theorem safe_of_asks {p : Program α} (hp : Asks Call.keepsLabels p)
    (hkept : Kept group n d σ.1.cluster σ.2) :
    Safe (World.unsteady fresh) (preserving group n d) (Well fun _ _ _ => True) p asked σ :=
  safe_of_keepsLabels (fun _ _ _ h => h) hp hkept trivial

/-! ## Making disks -/

/-- Whether snapshots that were listed are still those of a subscription. -/
def Listing (l : List Snapshot) (s : Subscription) : Prop :=
  ∀ label, label ∈ l.map Snapshot.label ↔
    ∃ key, (s.snapshots.get? key).map Snapshot.label = some label

/-- A listing is good at once. -/
theorem listing_values (s : Subscription) : Listing s.snapshots.values s := by
  intro label
  simp only [List.mem_map, Dict.mem_values, Option.map_eq_some_iff]
  constructor
  · rintro ⟨x, ⟨key, hx⟩, rfl⟩
    exact ⟨key, x, hx, rfl⟩
  · rintro ⟨key, x, hx, rfl⟩
    exact ⟨x, ⟨key, hx⟩, rfl⟩

/-- A listing stays good when no snapshot changes its label. -/
theorem Listing.congr {l : List Snapshot} {s s' : Subscription} (h : Listing l s)
    (hs : ∀ key, (s'.snapshots.get? key).map Snapshot.label =
      (s.snapshots.get? key).map Snapshot.label) :
    Listing l s' := by
  intro label
  rw [h label]
  constructor
  · rintro ⟨key, hkey⟩
    exact ⟨key, (hs key).trans hkey⟩
  · rintro ⟨key, hkey⟩
    exact ⟨key, (hs key).symm.trans hkey⟩

/-- A snapshot that was listed is still there. -/
theorem Listing.stored {l : List Snapshot} {s : Subscription} (h : Listing l s) {x : Snapshot}
    (hx : x ∈ l) :
    ∃ key y, s.snapshots.get? key = some y ∧ y.label = x.label := by
  obtain ⟨key, hkey⟩ := (h x.label).1 (List.mem_map_of_mem hx)
  obtain ⟨y, hy, hlabel⟩ := Option.map_eq_some_iff.1 hkey
  exact ⟨key, y, hy, hlabel⟩

/-- A missing disk whose data is kept is made from the snapshot that holds it. -/
theorem contentFor_of_missing {l : List Snapshot} {s : Subscription} {k : Contents κ}
    (h : Kept group n d s k) (hl : Listing l s) (hnone : s.disks.get? n = none) :
    contentFor l n = ⟨.copy, some (s.snapshotId group (Name.snapshotOf n))⟩ := by
  obtain ⟨x, hx, htags, -⟩ := h.copied hnone
  obtain ⟨y, hy, hlabel⟩ := List.mem_map.1 ((hl x.label).2 ⟨_, by rw [hx, Option.map_some]⟩)
  have hysnap : isSnapshotOf n y = true := by
    rw [isSnapshotOf_of_label hlabel]
    exact htags
  unfold contentFor
  cases hfind : l.find? (isSnapshotOf n) with
  | none => exact absurd hysnap (List.find?_eq_none.1 hfind y hy)
  | some z =>
    -- The first snapshot of the disk is the one of its name: there is no other.
    obtain ⟨key, z', hz', hzlabel⟩ := hl.stored (List.mem_of_find?_eq_some hfind)
    have htag : z'.tags.get? Tag.snapshotDisk = some n := by
      rw [Snapshot.tags_eq_of_label hzlabel]
      exact tag_of_isSnapshotOf (List.find?_some hfind)
    have hkey : key = Name.snapshotOf n := h.labelled.tagged hz' htag
    subst hkey
    have hid : z.id = some (s.snapshotId group (Name.snapshotOf n)) :=
      (Prod.mk.inj hzlabel).1.symm.trans (h.labelled.snapshot hz').1
    exact congrArg (CreationData.mk .copy) hid

/-- A listing of the snapshots is good when it is answered. -/
theorem listing_of_answers {secret : SecretRef} {r : Except AzureError (List Snapshot)}
    {l : List Snapshot}
    (turn : (World.unsteady fresh).answers (.cloud (.cluster secret) group .listSnapshots) σ r σ')
    (hr : r = .ok l) :
    Listing l σ'.1.cluster := by
  subst hr
  rcases World.cases_of_answers turn with ⟨⟨e, he⟩, -⟩ | ⟨σ₁, -, hs, -, hr | ⟨e, he⟩⟩
  · cases he
  · rw [hs]
    cases hr
    exact listing_values _
  · cases he

/-- Writing a disk keeps the data, also when the answer is lost. -/
theorem kept_of_putDisk {secret : SecretRef} {value : Disk} {r : Except AzureError Operation}
    (h : Kept group n d σ.1.cluster σ.2)
    (hcopy : m = n → σ.1.cluster.disks.get? n = none →
      value.creation = ⟨.copy, some (σ.1.cluster.snapshotId group (Name.snapshotOf n))⟩)
    (turn : (World.unsteady fresh).answers
      (.cloud (.cluster secret) group (.putDisk m value)) σ r σ') :
    Kept group n d σ'.1.cluster σ'.2 := by
  rcases World.cases_of_answers turn with ⟨-, move⟩ | ⟨σ₁, move, hs, hk, -⟩
  · exact h.elsewhere move
  · rw [hs, hk]
    refine (h.elsewhere move).putDisk fresh value ?_
    intro hm hnone
    have hnone' : σ.1.cluster.disks.get? n = none := by
      have := move.1.disks n
      rw [hnone] at this
      simpa using this.symm
    rw [hcopy hm hnone', move.1.snapshotId]

/-- Writing a disk leaves the snapshots. -/
theorem listing_of_putDisk {secret : SecretRef} {value : Disk} {r : Except AzureError Operation}
    {l : List Snapshot} (h : Listing l σ.1.cluster)
    (turn : (World.unsteady fresh).answers
      (.cloud (.cluster secret) group (.putDisk m value)) σ r σ') :
    Listing l σ'.1.cluster := by
  rcases World.cases_of_answers turn with ⟨-, move⟩ | ⟨σ₁, move, hs, -, -⟩
  · exact h.congr move.1.snapshots
  · rw [hs]
    exact h.congr move.1.snapshots

/-- Making disks from the snapshots that were listed is safe. -/
theorem safe_makeDisks (c : AzureConfig) (zones : List String) {snapshots : List Snapshot}
    (made : Nat) (disks : List String) (hkept : Kept c.clusterId n d σ.1.cluster σ.2)
    (hl : Listing snapshots σ.1.cluster) :
    Safe (World.unsteady fresh) (preserving c.clusterId n d) (Well fun _ _ _ => True)
      (makeDisks c zones snapshots made disks) asked σ := by
  induction disks generalizing made asked σ with
  | nil => exact Safe.pure hkept trivial
  | cons disk rest ih =>
    have hsteady : Steady fun σ : World × Contents κ => Listing snapshots σ.1.cluster :=
      fun _ _ move h => h.congr move.1.snapshots
    rw [makeDisks]
    refine (safe_of_keepsLabels hsteady (Asks.find? (by trivial)) hkept hl).andThen ?_
    intro asked σ found hkept hl
    cases found with
    | some _ => exact ih made hkept hl
    | none =>
      dsimp only
      split
      · exact Safe.pure hkept trivial
      · rename_i zone _
        refine Safe.andThen (Q := fun _ σ _ => Listing snapshots σ.1.cluster)
          (Safe.call hkept trivial ?_) ?_
        · intro r σ' turn
          refine ⟨kept_of_putDisk hkept ?_ turn, fun _ _ => listing_of_putDisk hl turn⟩
          rintro rfl hnone
          exact contentFor_of_missing hkept hl hnone
        · intro asked σ _ hkept hl
          exact ih (made + 1) hkept hl

/-- Making the missing disks is safe. -/
theorem safe_ensureDisks (c : AzureConfig) (count : Nat) (zones : List String)
    (hkept : Kept c.clusterId n d σ.1.cluster σ.2) :
    Safe (World.unsteady fresh) (preserving c.clusterId n d) (Well fun _ _ _ => True)
      (ensureDisks c count zones) asked σ := by
  refine Safe.andThen (Q := fun _ σ l => Listing l σ.1.cluster) (Safe.call hkept trivial ?_) ?_
  · intro r σ' turn
    exact ⟨hkept.elsewhere (World.elsewhere_of_answers (by trivial) turn),
      fun l hr => listing_of_answers turn hr⟩
  · intro asked σ snapshots hkept hl
    exact safe_makeDisks c zones 0 (memberDisks count) hkept hl

/-! ## Moving disks -/

/-- Whether a disk that was listed is there, with the ID of its name. -/
structure Listed (group : String) (x : Disk) (s : Subscription) : Prop where
  present : ∃ disk, s.disks.get? x.name = some disk
  id : x.id = some (diskId s.id group x.name)

/-- What others do leaves a listed disk. -/
theorem steady_listed (x : Disk) :
    Steady fun σ : World × Contents κ => Listed group x σ.1.cluster := by
  intro σ σ' move h
  obtain ⟨disk, hdisk⟩ := h.present
  obtain ⟨disk', hdisk', -⟩ := move.1.disk hdisk
  refine ⟨⟨disk', hdisk'⟩, ?_⟩
  rw [move.1.id]
  exact h.id

/-- All disks are listed as they are. -/
theorem listed_of_mem {s : Subscription} (hs : s.Labelled group) {x : Disk}
    (hx : x ∈ s.disks.values) :
    Listed group x s := by
  obtain ⟨key, hkey⟩ := Dict.mem_values.1 hx
  have hlabel := Prod.mk.inj (hs.disk hkey)
  rw [← hlabel.2] at hkey hlabel
  exact ⟨⟨x, hkey⟩, hlabel.1⟩

/-- Writing a disk leaves a listed disk. -/
theorem listed_of_putDisk {secret : SecretRef} {value x : Disk} {r : Except AzureError Operation}
    (h : Listed group x σ.1.cluster)
    (turn : (World.unsteady fresh).answers
      (.cloud (.cluster secret) group (.putDisk m value)) σ r σ') :
    Listed group x σ'.1.cluster := by
  rcases World.cases_of_answers turn with ⟨-, move⟩ | ⟨σ₁, move, hs, -, -⟩
  · exact steady_listed x _ _ move h
  · have h₁ := steady_listed x _ _ move h
    rw [hs]
    refine ⟨?_, h₁.id⟩
    show ∃ disk, (σ₁.1.cluster.disks.insert m _).get? x.name = some disk
    rw [Dict.get?_insert]
    split
    · exact ⟨_, rfl⟩
    · exact h₁.present

/-- Whether a disk that was listed is saved, with the ID of its name: what holds between its copy
and its deletion. -/
structure Secured (group : String) (x : Disk) (s : Subscription) (k : Contents κ) : Prop where
  saved : Saved group x.name s k
  id : x.id = some (diskId s.id group x.name)

/-- What others do leaves a secured disk. -/
theorem steady_secured (x : Disk) :
    Steady fun σ : World × Contents κ => Secured group x σ.1.cluster σ.2 := by
  intro σ σ' move h
  refine ⟨h.saved.elsewhere move, ?_⟩
  rw [move.1.id]
  exact h.id

/-- Copying a disk that is there keeps the data, and secures that disk when it is answered. -/
theorem kept_of_putSnapshot {secret : SecretRef} {location : String} {x : Disk}
    {r : Except AzureError Operation}
    (h : Kept group n d σ.1.cluster σ.2) (hx : Listed group x σ.1.cluster)
    (turn : (World.unsteady fresh).answers (.cloud (.cluster secret) group
      (.putSnapshot (Name.snapshotOf x.name) (snapshot location x.id x.name))) σ r σ') :
    Kept group n d σ'.1.cluster σ'.2 ∧ ∀ operation, r = .ok operation →
      Secured group x σ'.1.cluster σ'.2 := by
  rcases World.cases_of_answers turn with ⟨⟨e, he⟩, move⟩ | ⟨σ₁, move, hs, hk, -⟩
  · refine ⟨h.elsewhere move, ?_⟩
    intro operation hr
    rw [hr] at he
    cases he
  · have h₁ := h.elsewhere move
    have hx₁ := steady_listed x _ _ move hx
    rw [hs, hk, hx₁.id]
    obtain ⟨disk, hdisk⟩ := hx₁.present
    exact ⟨h₁.putSnapshot fresh location _ ⟨disk, hdisk⟩,
      fun _ _ => ⟨saved_putSnapshot h₁.labelled fresh _ location hdisk, hx₁.id⟩⟩

/-- Deleting a saved disk keeps the data, also when the answer is lost. -/
theorem kept_of_deleteDisk {secret : SecretRef} {r : Except AzureError Operation}
    (h : Kept group n d σ.1.cluster σ.2) (hm : Saved group m σ.1.cluster σ.2)
    (turn : (World.unsteady fresh).answers
      (.cloud (.cluster secret) group (.deleteDisk m)) σ r σ') :
    Kept group n d σ'.1.cluster σ'.2 := by
  rcases World.cases_of_answers turn with ⟨-, move⟩ | ⟨σ₁, move, hs, hk, -⟩
  · exact h.elsewhere move
  · rw [hs, hk]
    exact (h.elsewhere move).deleteDisk (hm.elsewhere move)

/-- Moving a disk is safe: it is deleted when it was saved. -/
theorem safe_migrateDisk (c : AzureConfig) {x : Disk} (hkept : Kept c.clusterId n d σ.1.cluster σ.2)
    (hx : Listed c.clusterId x σ.1.cluster) :
    Safe (World.unsteady fresh) (preserving c.clusterId n d) (Well fun _ _ _ => True)
      (migrateDisk c x) asked σ := by
  rw [migrateDisk]
  -- The disk is hidden; it is there, so nothing is made.
  refine Safe.andThen (Q := fun _ σ _ => Listed c.clusterId x σ.1.cluster)
    (Safe.call hkept trivial ?_) ?_
  · intro r σ' turn
    refine ⟨kept_of_putDisk hkept ?_ turn, fun _ _ => listed_of_putDisk hx turn⟩
    rintro rfl hnone
    obtain ⟨disk, hdisk⟩ := hx.present
    rw [hnone] at hdisk
    cases hdisk
  intro asked σ hidden hkept hx
  refine (safe_of_keepsLabels (steady_listed x) (Asks.groupCall (by trivial)) hkept hx).andThen ?_
  intro asked σ _ hkept hx
  -- The disk is copied to its snapshot.
  refine Safe.andThen (Q := fun asked σ operation => Secured c.clusterId x σ.1.cluster σ.2 ∧
    [⟨.cloud c.group.account c.group.name (.putSnapshot (Name.snapshotOf x.name)
      (snapshot x.location x.id x.name)), .ok operation⟩] <:+ asked) (Safe.call hkept trivial ?_) ?_
  · intro r σ' turn
    obtain ⟨hkept', hok⟩ := kept_of_putSnapshot hkept hx turn
    refine ⟨hkept', ?_⟩
    rintro operation rfl
    exact ⟨hok operation rfl, List.suffix_append _ _⟩
  intro asked σ kept hkept hcopy
  -- The copy is waited for, which is a frame.
  refine Safe.andThen (Q := fun asked σ _ => Secured c.clusterId x σ.1.cluster σ.2 ∧
    [⟨.cloud c.group.account c.group.name (.putSnapshot (Name.snapshotOf x.name)
      (snapshot x.location x.id x.name)), .ok kept⟩,
     ⟨.cloud c.group.account c.group.name (.wait kept), .ok ()⟩] <:+ asked)
    (Safe.call hkept trivial ?_) ?_
  · intro r σ' turn
    have move := World.elsewhere_of_answers (by trivial) turn
    refine ⟨hkept.elsewhere move, ?_⟩
    rintro ⟨⟩ rfl
    refine ⟨steady_secured x _ _ move hcopy.1, ?_⟩
    obtain ⟨before, rfl⟩ := hcopy.2
    exact ⟨before, by simp⟩
  intro asked σ _ hkept hcopy
  refine Safe.andThen (Q := fun _ _ _ => True) (Safe.call hkept ?_ ?_) ?_
  · refine ⟨_, kept, ?_, hcopy.2⟩
    rw [snapshot, hcopy.1.id]
  · intro r σ' turn
    exact ⟨kept_of_deleteDisk hkept hcopy.1.saved turn, fun _ _ => trivial⟩
  · intro asked σ deleted hkept _
    exact safe_of_asks (Asks.groupCall (by trivial)) hkept

/-! ## Attaching disks -/

/-- All disks are answered as they are. -/
theorem listed_of_answers {secret : SecretRef} {r : Except AzureError (List Disk)} {l : List Disk}
    (h : Kept group n d σ.1.cluster σ.2)
    (turn : (World.unsteady fresh).answers (.cloud (.cluster secret) group .listDisks) σ r σ')
    (hr : r = .ok l) :
    ∀ x ∈ l, Listed group x σ'.1.cluster := by
  subst hr
  rcases World.cases_of_answers turn with ⟨⟨e, he⟩, -⟩ | ⟨σ₁, move, hs, -, hr | ⟨e, he⟩⟩
  · cases he
  · rw [hs]
    cases hr
    exact fun x hx => listed_of_mem (h.elsewhere move).labelled hx
  · cases he

/-- Looking for a disk is safe, also when one has to be moved. -/
theorem safe_findAvailableDisk (c : AzureConfig) (zone : String)
    (hkept : Kept c.clusterId n d σ.1.cluster σ.2) :
    Safe (World.unsteady fresh) (preserving c.clusterId n d) (Well fun _ _ _ => True)
      (findAvailableDisk c zone) asked σ := by
  refine Safe.andThen (Q := fun _ σ l => ∀ x ∈ l, Listed c.clusterId x σ.1.cluster)
    (Safe.call hkept trivial ?_) ?_
  · intro r σ' turn
    exact ⟨hkept.elsewhere (World.elsewhere_of_answers (by trivial) turn),
      fun l hr => listed_of_answers hkept turn hr⟩
  · intro asked σ disks hkept hlisted
    cases hchoice : chooseDisk zone disks with
    | use x => exact Safe.pure hkept trivial
    | move x =>
      refine (safe_migrateDisk c hkept (hlisted x (free_of_move hchoice).1)).andThen ?_
      intro asked σ _ hkept _
      exact Safe.pure hkept trivial
    | nothing => exact Safe.pure hkept trivial

/-- Giving a master its disk is safe. -/
theorem safe_ensureMember (c : AzureConfig) (subscription : String) (v : Instance)
    (hkept : Kept c.clusterId n d σ.1.cluster σ.2) :
    Safe (World.unsteady fresh) (preserving c.clusterId n d) (Well fun _ _ _ => True)
      (ensureMember c subscription v) asked σ := by
  unfold ensureMember
  split
  · refine (safe_findAvailableDisk c (v.zone.getD "") hkept).andThen ?_
    intro asked σ disk hkept _
    split
    · exact Safe.pure hkept trivial
    · exact safe_of_asks (.bind (.groupCall (by trivial)) fun _ => trivial) hkept
  · exact Safe.pure hkept trivial

/-- What is called to start a member. -/
def Starting : Call → Prop
  | .cloud _ _ (.getInterface _ _ _) | .cloud _ _ (.getRecord _ _) | .cloud _ _ (.putRecord _ _ _)
  | .cloud _ _ (.runCommand _ _ _) | .findBundle _ _ => True
  | _ => False

/-- Starting a member makes no other calls. -/
theorem asks_startMember (c : AzureConfig) (inst member : String) (entries : List String) :
    Asks Starting (startMember c inst member entries) := by
  have haddress : Asks Starting (masterAddress c inst) := by
    refine .bind (.groupCall (by trivial)) fun interface => ?_
    split <;> trivial
  have hrecord : ∀ address, Asks Starting (ensureRecord c member address) := fun address =>
    .bind (.find? (by trivial)) fun found => .bind (.groupCall (by trivial)) fun _ => trivial
  have hcert : Asks Starting (certOf member) := by
    unfold certOf
    split <;> trivial
  exact haddress.bind fun address => (hrecord address).bind fun _ => hcert.bind fun cert =>
    (Asks.call (by trivial)).bind fun tls => .bind (.groupCall (by trivial)) fun _ => trivial

/-- Starting a member is a frame. -/
theorem keepsLabels_of_starting {c : Call} (hc : Starting c) : c.keepsLabels := by
  unfold Call.keepsLabels
  split
  · rename_i k
    cases k <;> trivial
  · trivial

/-- Attaching all disks is safe. -/
theorem safe_attachAll (c : AzureConfig) (subscription : String) (entries : List String)
    (l : List Instance) (hkept : Kept c.clusterId n d σ.1.cluster σ.2) :
    Safe (World.unsteady fresh) (preserving c.clusterId n d) (Well fun _ _ _ => True)
      (attachAll c subscription entries l) asked σ := by
  induction l generalizing entries asked σ with
  | nil => exact Safe.pure hkept trivial
  | cons v rest ih =>
    rw [attachAll]
    split
    · have hstart := fun member entries =>
        (asks_startMember c v.instanceId member entries).mono fun _ => keepsLabels_of_starting
      refine (safe_ensureMember c subscription v hkept).andThen ?_
      intro asked σ member hkept _
      split
      · exact ih entries hkept
      · refine (safe_of_asks (hstart member entries) hkept).andThen ?_
        intro asked σ entries hkept _
        exact ih entries hkept
    · exact ih entries hkept

/-- Giving the masters of a cluster their disks is safe. -/
theorem safe_attachDisks (c : AzureConfig) (subscription : String)
    (hkept : Kept c.clusterId n d σ.1.cluster σ.2) :
    Safe (World.unsteady fresh) (preserving c.clusterId n d) (Well fun _ _ _ => True)
      (attachDisks c subscription) asked σ := by
  refine (safe_of_asks (Asks.find? (by trivial)) hkept).andThen ?_
  intro asked σ found hkept _
  cases found with
  | none => exact Safe.pure hkept trivial
  | some instances => exact safe_attachAll c subscription [] instances hkept

/-! ## Deleting snapshots -/

/-- A disk that was answered is there. -/
theorem present_of_answers {secret : SecretRef} {r : Except AzureError Disk} {disk : Disk}
    (turn : (World.unsteady fresh).answers (.cloud (.cluster secret) group (.getDisk m)) σ r σ')
    (hr : r = .ok disk) :
    ∃ disk, σ'.1.cluster.disks.get? m = some disk := by
  subst hr
  rcases World.cases_of_answers turn with ⟨⟨e, he⟩, -⟩ | ⟨σ₁, -, hs, -, hr | ⟨e, he⟩⟩
  · cases he
  · refine ⟨disk, ?_⟩
    rw [hs]
    show σ₁.1.cluster.disks.get? m = some disk
    have hr' : Subscription.orMissing (σ₁.1.cluster.disks.get? m) ("disk " ++ m) =
        .ok disk := hr.symm
    unfold Subscription.orMissing at hr'
    split at hr'
    · rename_i found hfound
      rw [hfound, Except.ok.inj hr']
    · cases hr'
  · cases he

/-- Deleting a snapshot that has served keeps the data, also when the answer is lost. -/
theorem kept_of_deleteSnapshot {secret : SecretRef} {name : String}
    {r : Except AzureError Operation} (h : Kept group n d σ.1.cluster σ.2)
    (hserved : name = Name.snapshotOf n → ∃ disk, σ.1.cluster.disks.get? n = some disk)
    (turn : (World.unsteady fresh).answers
      (.cloud (.cluster secret) group (.deleteSnapshot name)) σ r σ') :
    Kept group n d σ'.1.cluster σ'.2 := by
  rcases World.cases_of_answers turn with ⟨-, move⟩ | ⟨σ₁, move, hs, hk, -⟩
  · exact h.elsewhere move
  · rw [hs, hk]
    refine (h.elsewhere move).deleteSnapshot ?_
    intro hname
    obtain ⟨disk, hdisk⟩ := hserved hname
    obtain ⟨disk', hdisk', -⟩ := move.1.disk hdisk
    exact ⟨disk', hdisk'⟩

/-- Deleting a snapshot is safe when it is named after the disk it is tagged with. -/
theorem safe_cleanSnapshot (c : AzureConfig) {x : Snapshot}
    (hx : ∀ m, x.tags.get? Tag.snapshotDisk = some m → x.name = Name.snapshotOf m)
    (hkept : Kept c.clusterId n d σ.1.cluster σ.2) :
    Safe (World.unsteady fresh) (preserving c.clusterId n d) (Well fun _ _ _ => True)
      (cleanSnapshot c x) asked σ := by
  unfold cleanSnapshot
  split
  · exact Safe.pure hkept trivial
  · rename_i m htag
    split
    · refine Safe.andThen (Q := fun _ σ found => ∀ a : Disk, found = some a →
        ∃ disk, σ.1.cluster.disks.get? m = some disk) (Safe.find? hkept trivial ?_) ?_
      · intro r σ' turn
        refine ⟨hkept.elsewhere (World.elsewhere_of_answers (by trivial) turn), ?_, ?_⟩
        · intro disk hr _ _
          exact present_of_answers turn hr
        · intro e _ _ h
          cases h
      · intro asked σ found hkept hfound
        cases found with
        | none => exact Safe.pure hkept trivial
        | some disk =>
          have hdisk := hfound disk rfl
          dsimp only
          split
          · refine Safe.andThen (Q := fun _ _ _ => True) (Safe.call hkept ?_ ?_) ?_
            · -- A snapshot of the disk under this name makes it that disk.
              intro y hy hytag
              have hm : Name.snapshotOf m = Name.snapshotOf n :=
                (hx m htag).symm.trans (hkept.labelled.tagged hy hytag)
              obtain ⟨disk, hdisk⟩ := hdisk
              rw [snapshotOf_injective hm] at hdisk
              exact hkept.diskHolds hdisk
            · intro r σ' turn
              refine ⟨kept_of_deleteSnapshot hkept ?_ turn, fun _ _ => trivial⟩
              intro hname
              rw [← snapshotOf_injective ((hx m htag).symm.trans hname)]
              exact hdisk
            · intro asked σ _ hkept _
              exact Safe.pure hkept trivial
          · exact Safe.pure hkept trivial
    · exact Safe.pure hkept trivial

/-- Snapshots that were listed are named after the disks they are tagged with. -/
theorem named_of_listing {l : List Snapshot} {s : Subscription} (hs : s.Labelled group)
    (hl : Listing l s) {x : Snapshot} (hx : x ∈ l) {m : String}
    (htag : x.tags.get? Tag.snapshotDisk = some m) :
    x.name = Name.snapshotOf m := by
  obtain ⟨key, y, hy, hlabel⟩ := hl.stored hx
  rw [← Snapshot.tags_eq_of_label hlabel] at htag
  rw [← Snapshot.name_eq_of_label hlabel, (hs.snapshot hy).2]
  exact hs.tagged hy htag

/-- Deleting the snapshots that have served is safe. -/
theorem safe_cleanSnapshots (c : AzureConfig) (hkept : Kept c.clusterId n d σ.1.cluster σ.2) :
    Safe (World.unsteady fresh) (preserving c.clusterId n d) (Well fun _ _ _ => True)
      (cleanSnapshots c) asked σ := by
  refine Safe.andThen (Q := fun _ σ l => Listing l σ.1.cluster) (Safe.call hkept trivial ?_) ?_
  · intro r σ' turn
    exact ⟨hkept.elsewhere (World.elsewhere_of_answers (by trivial) turn),
      fun l hr => listing_of_answers turn hr⟩
  · intro asked σ snapshots hkept hl
    refine Safe.forEach (I := fun _ _ => True) trivial hkept ?_
    intro x hx asked σ hkept' _
    exact safe_cleanSnapshot c (fun m htag => named_of_listing hkept.labelled hl hx htag) hkept'

/-! ## The passes -/

/-- Asking for certificates is a frame. -/
theorem asks_countCerts (c : AzureConfig) (certs : List EtcdCert) :
    Asks Call.keepsLabels (countCerts c certs) := by
  induction certs with
  | nil => trivial
  | cons cert rest ih =>
    exact .bind (.call (by trivial)) fun _ => .bind (.attempt (by trivial)) fun _ =>
      ih.bind fun _ => trivial

/-- Looking whether everything is there is safe, also when disks are made. -/
theorem safe_verifyPrerequisites (c : AzureConfig) (version : String)
    (hkept : Kept c.clusterId n d σ.1.cluster σ.2) :
    Safe (World.unsteady fresh) (preserving c.clusterId n d) (Well fun _ _ _ => True)
      (verifyPrerequisites c version) asked σ := by
  refine (safe_of_asks (asks_countCerts c _) hkept).andThen ?_
  intro asked σ certs hkept _
  refine (safe_of_asks (Asks.find? (by trivial)) hkept).andThen ?_
  intro asked σ found hkept _
  cases found with
  | none => exact Safe.pure hkept trivial
  | some scaleSet =>
    dsimp only
    split
    · refine (safe_of_asks (Asks.groupCall (by trivial)) hkept).andThen ?_
      intro asked σ masters hkept _
      refine (safe_of_asks (Asks.groupCall (by trivial)) hkept).andThen ?_
      intro asked σ disks hkept _
      split
      · exact Safe.pure hkept trivial
      · refine (safe_ensureDisks c _ _ hkept).andThen ?_
        intro asked σ _ hkept _
        exact Safe.pure hkept trivial
    · exact Safe.pure hkept trivial

/-- A pass over the members of a cluster is safe. -/
theorem safe_ensureMembers (c : AzureConfig) (subscription version : String)
    (hkept : Kept c.clusterId n d σ.1.cluster σ.2) :
    Safe (World.unsteady fresh) (preserving c.clusterId n d) (Well fun _ _ _ => True)
      (ensureMembers c subscription version) asked σ := by
  refine (safe_verifyPrerequisites c version hkept).andThen ?_
  intro asked σ ready hkept _
  split
  · refine (safe_attachDisks c subscription hkept).andThen ?_
    intro asked σ _ hkept _
    exact safe_cleanSnapshots c hkept
  · exact Safe.pure hkept trivial

/-- Whether a program is a pass over the members of the cluster of a group, of any size. -/
def IsPass (group : String) (p : Program Unit) : Prop :=
  ∃ c subscription version, c.clusterId = group ∧ p = ensureMembers c subscription version

/-- **No data is lost.** In a world where every call may fail and others are at work, the data of a
disk is on a disk or a snapshot of it at every moment of all passes; a disk is deleted only right
after it was copied, and a snapshot of the disk only while that holds the data. -/
theorem data_preserved (fresh : CreationData → κ) {w : World} {k : Contents κ}
    (hw : w.cluster.Labelled group) (hd : DiskHolds w.cluster k n d) {q : Program Unit}
    (moment : Passes (World.unsteady fresh) (IsPass group) (w, k) asked q σ) :
    (DiskHolds σ.1.cluster σ.2 n d ∨ SnapshotHolds σ.1.cluster σ.2 n d) ∧
      (∀ secret m resume, q = .ask (.cloud (.cluster secret) group (.deleteDisk m)) resume →
        Copied (.cluster secret) group (diskId σ.1.cluster.id group m) m asked) ∧
      ∀ secret name resume,
        q = .ask (.cloud (.cluster secret) group (.deleteSnapshot name)) resume →
        Served σ.1.cluster σ.2 n d name := by
  have hsafe :
      Safe (World.unsteady fresh) (preserving group n d) (Well fun _ _ _ => True) q asked σ := by
    refine passes ?_ (kept_of_diskHolds hw hd) moment
    rintro p ⟨c, subscription, version, rfl, rfl⟩ asked σ hkept
    exact safe_ensureMembers c subscription version hkept
  refine ⟨hsafe.always.holds, ?_, ?_⟩
  · rintro secret m resume rfl
    exact hsafe.2.1
  · rintro secret name resume rfl
    exact hsafe.2.1

/-! ## A disk in another zone -/

/-- A cluster with one master. -/
def smallCluster : AzureConfig where
  metadata := {}
  clusterId := "c1"
  dnsZone := "k8s.c1"
  etcdDomain := "etcd.c1"
  location := "westeurope"
  masters := ["Standard_D4s_v3"]
  secret := ⟨"credentials", "default"⟩

/-- The only member's disk, in the first zone. -/
def strandedDisk : Disk where
  id := some (diskId "sub-tenant" "c1" "etcd1")
  name? := some "etcd1"
  location := "westeurope"
  tags := roleTags
  zones := ["1"]
  provisioningState := some provisioningSucceeded

/-- The world of a small cluster whose master is in the second zone. -/
def strandedWorld : World :=
  let version : Dict String := Dict.empty.insert Tag.operatorVersion "1.0.0"
  let master : Instance :=
    { instanceId := "0", tags := version, zones := ["2"],
      provisioningState := some provisioningSucceeded }
  let cluster : Subscription :=
    { id := "sub-tenant"
      scaleSets := Dict.empty.insert "c1-master" { location := "westeurope", tags := version } }
  World.addBundle
    { cluster := (cluster.addDisk strandedDisk).addInstance "c1-master" master, template := .null }
    "c1" .etcd1 ⟨"ca", "crt", "key"⟩

/-- A pass over the small cluster after eleven calls. -/
def midMigration : List Asked × Program Unit × World × Contents Nat :=
  advance (World.withContents fun _ => 0) 11 (ensureMembers smallCluster "sub-tenant" "1.0.0")
    (strandedWorld, fun _ => 1)

/-- When the disk is about to be deleted it was copied, and its data is kept. -/
theorem data_preserved_midMigration :
    strandedWorld.cluster.Labelled "c1" ∧ DiskHolds strandedWorld.cluster (fun _ => 1) "etcd1" 1 ∧
      midMigration.2.1.next?.map World.methodOf = some ("delete_disk", "etcd1") ∧
      (DiskHolds midMigration.2.2.1.cluster midMigration.2.2.2 "etcd1" 1 ∨
        SnapshotHolds midMigration.2.2.1.cluster midMigration.2.2.2 "etcd1" 1) ∧
      ∀ secret m resume,
        midMigration.2.1 = .ask (.cloud (.cluster secret) "c1" (.deleteDisk m)) resume →
        Copied (.cluster secret) "c1" (diskId midMigration.2.2.1.cluster.id "c1" m) m
          midMigration.1 := by
  have hlabels : strandedWorld.cluster.Labelled "c1" := by
    refine ⟨?_, fun hx => (by cases hx), fun hx => (by cases hx)⟩
    intro n disk hdisk
    have hget : (Dict.empty.insert "etcd1" strandedDisk).get? n = some disk := hdisk
    rw [Dict.get?_insert] at hget
    split at hget
    · rename_i hn
      subst hn
      cases hget
      rfl
    · cases hget
  have hdisk : DiskHolds strandedWorld.cluster (fun _ => 1) "etcd1" 1 :=
    ⟨strandedDisk, Dict.mem_values.2 ⟨"etcd1", Dict.get?_insert_self _ _ _⟩, rfl, _, rfl, rfl⟩
  have path := path_advance (E := World.unsteady fun _ => 0) (h := World.withContents fun _ => 0)
    (fun c σ => ⟨σ, .refl σ, .answered⟩) rfl 11 (ensureMembers smallCluster "sub-tenant" "1.0.0")
    (strandedWorld, fun _ => 1)
  have h := data_preserved (fun _ => 0) hlabels hdisk
    (.first ⟨smallCluster, "sub-tenant", "1.0.0", rfl, rfl⟩ path)
  exact ⟨hlabels, hdisk, by decide +kernel, h.1, h.2.1⟩

end TenantFleet.Etcd
