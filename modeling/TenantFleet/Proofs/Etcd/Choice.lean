/-
# Which disk is chosen, and what a move does

A listing decides which disk an instance gets: the first free one that fits; when none fits the last
free one is moved, and the instance gets nothing yet. A move is six steps in a row, so all that was
done when it ends are the steps up to the first one that failed.

* `Free` and `Fits` : which disks can be given away, and where to;
* `Chosen` : what a listing leads to, and what was done then;
* `chooseDisk_eq_use`, `chooseDisk_eq_move` and `chooseDisk_eq_nothing` : the choice;
* `attempted_migrateDisk` : the move;
* `chosen_of_listing` : what looking for a disk does.
-/
import TenantFleet.Etcd.Disks
import TenantFleet.Proofs.Program.Steps

namespace TenantFleet.Etcd

open Program

variable {α ω : Type} {zone : String} {disks : List Disk} {d : Disk}

/-! ## Free disks -/

/-- Whether a disk can be given away: it has the role of a member's disk, is ready, and is attached
to no machine. -/
structure Free (d : Disk) : Prop where
  role : d.tags.get? Tag.diskRole = some Tag.etcdRole
  ready : d.provisioningState = some provisioningSucceeded
  unattached : d.managedBy = none

/-- Whether a disk can be attached in a zone: no zone is asked for, or it is the first one of the
disk. -/
def Fits (zone : String) (d : Disk) : Prop := zone = "" ∨ d.zones.head? = some zone

/-- Whether an item of a list is the first one of a kind. -/
def IsFirst (P : α → Prop) (l : List α) (a : α) : Prop :=
  ∃ before after, l = before ++ a :: after ∧ P a ∧ ∀ b ∈ before, ¬P b

/-- Whether an item of a list is the last one of a kind. -/
def IsLast (P : α → Prop) (l : List α) (a : α) : Prop :=
  ∃ before after, l = before ++ a :: after ∧ P a ∧ ∀ b ∈ after, ¬P b

theorem IsFirst.mem {P : α → Prop} {l : List α} {a : α} (h : IsFirst P l a) : a ∈ l ∧ P a := by
  obtain ⟨before, after, rfl, ha, -⟩ := h
  exact ⟨List.mem_append_right before List.mem_cons_self, ha⟩

theorem IsLast.mem {P : α → Prop} {l : List α} {a : α} (h : IsLast P l a) : a ∈ l ∧ P a := by
  obtain ⟨before, after, rfl, ha, -⟩ := h
  exact ⟨List.mem_append_right before List.mem_cons_self, ha⟩

/-- A search for items of a kind finds the first one. -/
theorem isFirst_of_find? {P : α → Prop} {p : α → Bool} {l : List α} {a : α}
    (hp : ∀ b, p b = true ↔ P b) (h : l.find? p = some a) : IsFirst P l a := by
  obtain ⟨ha, before, after, hsplit, hbefore⟩ := List.find?_eq_some_iff_append.1 h
  refine ⟨before, after, hsplit, (hp a).1 ha, fun b hb hP => ?_⟩
  have hnot := hbefore b hb
  rw [(hp b).2 hP] at hnot
  cases hnot

/-! ## What a listing leads to -/

/-- Whether a snapshot is a full copy of a disk and tagged with its name. -/
structure CopyOf (d : Disk) (s : Snapshot) : Prop where
  content : s.creation = ⟨.copy, d.id⟩
  role : s.tags.get? Tag.diskRole = some Tag.etcdRole
  name : s.tags.get? Tag.snapshotDisk = some d.name

/-- The steps of the move of a disk, with the operations that they start: it loses its tags, is
copied, and is deleted, each one awaited. -/
def moveSteps (g : ResourceGroup) (d : Disk) (copy : Snapshot)
    (hidden copied deleted : Operation) : List Asked :=
  [⟨.cloud g.account g.name (.putDisk d.name { d with tags := .empty }), .ok hidden⟩,
    ⟨.cloud g.account g.name (.wait hidden), .ok ()⟩,
    ⟨.cloud g.account g.name (.putSnapshot (Name.snapshotOf d.name) copy), .ok copied⟩,
    ⟨.cloud g.account g.name (.wait copied), .ok ()⟩,
    ⟨.cloud g.account g.name (.deleteDisk d.name), .ok deleted⟩,
    ⟨.cloud g.account g.name (.wait deleted), .ok ()⟩]

/-- What a listing leads to: the calls behind it, and the end. -/
inductive Chosen (g : ResourceGroup) (zone : String) (disks : List Disk) :
    List Asked → Except Error String → Prop
  /-- A free disk fits: the first one is named, and nothing is done. -/
  | use (d : Disk) (hd : IsFirst (fun d => Free d ∧ Fits zone d) disks d) :
    Chosen g zone disks [] (.ok d.name)
  /-- No free disk fits: the last one is moved, as far as that goes, and none is named. -/
  | move (d : Disk) (copy : Snapshot) (hidden copied deleted : Operation) (trace : List Asked)
    (r : Except Error String) (hnone : ∀ d ∈ disks, Free d → ¬Fits zone d)
    (hd : IsLast Free disks d)
    (hcopy : CopyOf d copy) (hmove : Attempted (moveSteps g d copy hidden copied deleted)
      "" trace r) :
    Chosen g zone disks trace r
  /-- No disk is free: nothing is done, and none is named. -/
  | nothing (hnone : ∀ d ∈ disks, ¬Free d) : Chosen g zone disks [] (.ok "")

/-! ## The choice -/

theorem isFree_iff : isFree d = true ↔ Free d := by
  unfold isFree isMemberDisk Disk.hasTag Disk.succeeded Disk.attached
  constructor
  · intro h
    simp only [Bool.and_eq_true, decide_eq_true_eq, Bool.not_eq_true', Option.isSome_eq_false_iff,
      Option.isNone_iff_eq_none] at h
    exact ⟨h.1.1, h.1.2, h.2⟩
  · rintro ⟨hrole, hready, hunattached⟩
    simp [hrole, hready, hunattached]

theorem fits_iff : fits zone d = true ↔ Fits zone d := by
  unfold fits Fits Disk.zone
  simp

/-- The first free disk that fits is chosen. -/
theorem chooseDisk_eq_use (h : chooseDisk zone disks = .use d) :
    IsFirst (fun d => Free d ∧ Fits zone d) disks d := by
  unfold chooseDisk at h
  dsimp only at h
  split at h
  · rename_i first hfirst
    cases h
    rw [List.find?_filter] at hfirst
    refine isFirst_of_find? (fun b => ?_) hfirst
    rw [decide_eq_true_eq, isFree_iff, fits_iff]
  · split at h <;> cases h

/-- When no free disk that fits is found, none fits. -/
theorem not_fits_of_find?_eq_none (h : (disks.filter isFree).find? (fits zone) = none) :
    ∀ d ∈ disks, Free d → ¬Fits zone d := by
  intro d hd hfree hfits
  exact List.find?_eq_none.1 h d (List.mem_filter.2 ⟨hd, isFree_iff.2 hfree⟩) (fits_iff.2 hfits)

/-- When no free disk fits the last one is chosen for a move. -/
theorem chooseDisk_eq_move (h : chooseDisk zone disks = .move d) :
    (∀ d ∈ disks, Free d → ¬Fits zone d) ∧ IsLast Free disks d := by
  unfold chooseDisk at h
  dsimp only at h
  split at h
  · cases h
  · rename_i hnone
    split at h
    · rename_i last hlast
      cases h
      refine ⟨not_fits_of_find?_eq_none hnone, ?_⟩
      -- The free disks end with this one: none of those listed behind it is free.
      obtain ⟨others, hothers⟩ := List.getLast?_eq_some_iff.1 hlast
      obtain ⟨left, right, rfl, -, hright⟩ := List.filter_eq_append_iff.1 hothers
      obtain ⟨between, after, rfl, -, hfree, hafter⟩ := List.filter_eq_cons_iff.1 hright
      refine ⟨left ++ between, after, by simp, isFree_iff.1 hfree, fun b hb hb' => ?_⟩
      exact List.filter_eq_nil_iff.1 hafter b hb (isFree_iff.2 hb')
    · cases h

/-- Nothing is chosen when no disk is free. -/
theorem chooseDisk_eq_nothing (h : chooseDisk zone disks = .nothing) : ∀ d ∈ disks, ¬Free d := by
  unfold chooseDisk at h
  dsimp only at h
  split at h
  · cases h
  · split at h
    · cases h
    · rename_i hempty
      intro d hd hfree
      have hmem := List.mem_filter.2 ⟨hd, isFree_iff.2 hfree⟩
      rw [List.getLast?_eq_none_iff.1 hempty] at hmem
      cases hmem

/-- A disk that is chosen is listed, and free. -/
theorem free_of_chooseDisk (h : chooseDisk zone disks = .use d) : d ∈ disks ∧ isFree d = true := by
  obtain ⟨hmem, hfree, -⟩ := (chooseDisk_eq_use h).mem
  exact ⟨hmem, isFree_iff.2 hfree⟩

/-- A disk that is moved is listed, and free. -/
theorem free_of_move (h : chooseDisk zone disks = .move d) : d ∈ disks ∧ isFree d = true := by
  obtain ⟨hmem, hfree⟩ := (chooseDisk_eq_move h).2.mem
  exact ⟨hmem, isFree_iff.2 hfree⟩

/-! ## The move -/

variable {h : Handler ω} {c : AzureConfig}

/-- The snapshot that is asked for is a copy. -/
theorem copyOf_snapshot (d : Disk) : CopyOf d (snapshot d.location d.id d.name) where
  content := rfl
  role := by
    unfold snapshot roleTags
    dsimp only
    rw [Dict.get?_insert_of_ne _ _ (by decide), Dict.get?_insert_self]
  name := Dict.get?_insert_self _ _ _

/-- A move does its steps up to the first one that fails. -/
theorem attempted_migrateDisk (c : AzureConfig) (d : Disk) (a : α) (w : ω) :
    ∃ hidden copied deleted, Attempted
      (moveSteps c.group d (snapshot d.location d.id d.name) hidden copied deleted) a
      (asked h ((migrateDisk c d).bind fun _ => done (.ok a)) w)
      (run h ((migrateDisk c d).bind fun _ => done (.ok a)) w).1 := by
  -- From the end to the start: each request and its wait come before the steps that are left.
  have hend (w' : ω) : ∃ steps, steps = [] ∧
      Attempted steps a (asked h (done (.ok a)) w') (run h (done (.ok a)) w').1 := ⟨[], rfl, .all⟩
  have hdelete := Attempted.operation (g := c.group) (k := .deleteDisk d.name) id hend
  have hcopy := Attempted.operation (g := c.group)
    (k := .putSnapshot (Name.snapshotOf d.name) (snapshot d.location d.id d.name)) id hdelete
  obtain ⟨steps, ⟨hidden, _, ⟨copied, _, ⟨deleted, _, rfl, rfl⟩, rfl⟩, rfl⟩, hsteps⟩ :=
    Attempted.operation (g := c.group) (k := .putDisk d.name { d with tags := .empty }) id hcopy w
  refine ⟨hidden, copied, deleted, ?_⟩
  simp only [migrateDisk, bind_eq, bind_assoc]
  exact hsteps

/-- Looking for a disk asks for the listing, and does what that leads to. -/
theorem chosen_of_listing (h : Handler ω) (c : AzureConfig) (zone : String) (w : ω) :
    match (h.answer (.cloud c.group.account c.group.name .listDisks) w).1 with
    | .error e =>
      asked h (findAvailableDisk c zone) w =
        [⟨.cloud c.group.account c.group.name .listDisks, .error e⟩] ∧
        (run h (findAvailableDisk c zone) w).1 = .error (.azure e)
    | .ok disks => ∃ trace,
      asked h (findAvailableDisk c zone) w =
          ⟨.cloud c.group.account c.group.name .listDisks, .ok disks⟩ :: trace ∧
        Chosen c.group zone disks trace (run h (findAvailableDisk c zone) w).1 := by
  cases hlist : h.answer (.cloud c.group.account c.group.name .listDisks) w with
  | mk r w₁ =>
    unfold findAvailableDisk ResourceGroup.call
    rw [bind_eq]
    cases r with
    | error e => exact ⟨asked_call_of_error hlist, congrArg Prod.fst (run_call_of_error hlist)⟩
    | ok disks =>
      refine ⟨_, asked_call_of_ok hlist, ?_⟩
      rw [run_call_of_ok hlist]
      cases hchoice : chooseDisk zone disks with
      | use d => exact .use d (chooseDisk_eq_use hchoice)
      | move d =>
        obtain ⟨hnone, hlast⟩ := chooseDisk_eq_move hchoice
        obtain ⟨hidden, copied, deleted, hmove⟩ := attempted_migrateDisk (h := h) c d "" w₁
        exact .move d _ hidden copied deleted _ _ hnone hlast (copyOf_snapshot d) hmove
      | nothing => exact .nothing (chooseDisk_eq_nothing hchoice)

end TenantFleet.Etcd
