/-
# Making, choosing and moving member disks

Missing disks are made, from the snapshot of their name if there is one. An instance without a disk
gets a free one in its zone. When all free disks are in other zones the last one is moved: it loses
its tags, is copied to a snapshot and deleted, each step after the end of the one before, and made
again later.

* `chooseDisk` : which free disk an instance gets, or which one is moved;
* `ensureDisks` and `findAvailableDisk` : the programs.
-/
import TenantFleet.Etcd.Member
import TenantFleet.Program.Service

namespace TenantFleet.Etcd

/-! ## Making disks -/

/-- The content of a new disk: that of the first snapshot of its name, or none. -/
def contentFor (snapshots : List Snapshot) (disk : String) : CreationData :=
  match snapshots.find? (isSnapshotOf disk) with
  | some s => ⟨.copy, s.id⟩
  | none => ⟨.empty, none⟩

/-- A new disk in a zone. -/
def newDisk (c : AzureConfig) (zone : String) (content : CreationData) : Disk :=
  { location := c.location
    tags := roleTags
    zones := [zone]
    creation := content
    sizeGB := some diskSizeGB }

/-- Makes the missing disks among the given ones. The number of disks made so far says which zone is
next; without zones no disk is made. -/
def makeDisks (c : AzureConfig) (zones : List String) (snapshots : List Snapshot) :
    Nat → List String → Program Unit
  | _, [] => return ()
  | made, disk :: rest => do
    match ← c.group.find? (.getDisk disk) with
    | some _ => makeDisks c zones snapshots made rest
    | none =>
      match zones[made % zones.length]? with
      | none => return ()
      | some zone =>
        let _ ← c.group.call (.putDisk disk (newDisk c zone (contentFor snapshots disk)))
        makeDisks c zones snapshots (made + 1) rest

/-- Makes the missing disks of the first members, in the given zones by turns. -/
def ensureDisks (c : AzureConfig) (count : Nat) (zones : List String) : Program Unit := do
  let snapshots ← c.group.call .listSnapshots
  makeDisks c zones snapshots 0 (memberDisks count)

/-! ## Choosing a disk -/

/-- Whether a disk is a member's, ready and not attached. -/
def isFree (d : Disk) : Bool := isMemberDisk d && d.succeeded && !d.attached

/-- Whether a disk can be attached in a zone; without a zone every disk can. -/
def fits (zone : String) (d : Disk) : Bool := zone.isEmpty || d.zone = some zone

/-- What is done for an instance without a disk. -/
inductive DiskChoice
  /-- The instance gets a disk. -/
  | use (disk : Disk)
  /-- A disk is moved; the instance gets it later. -/
  | move (disk : Disk)
  /-- There is no free disk. -/
  | nothing
  deriving DecidableEq, Inhabited

/-- The first free disk that fits, else the last free disk is moved. -/
def chooseDisk (zone : String) (disks : List Disk) : DiskChoice :=
  let free := disks.filter isFree
  match free.find? (fits zone) with
  | some d => .use d
  | none =>
    match free.getLast? with
    | some d => .move d
    | none => .nothing

/-! ## Moving a disk -/

/-- Moves a disk out of its zone: hides it, keeps its data in a snapshot, deletes it. -/
def migrateDisk (c : AzureConfig) (d : Disk) : Program Unit := do
  let name := d.name
  let hidden ← c.group.call (.putDisk name { d with tags := .empty })
  c.group.wait hidden
  let kept ← c.group.call (.putSnapshot (Name.snapshotOf name) (snapshot d.location d.id name))
  c.group.wait kept
  let deleted ← c.group.call (.deleteDisk name)
  c.group.wait deleted

/-- The name of a disk that an instance in a zone can have now; empty if there is none. -/
def findAvailableDisk (c : AzureConfig) (zone : String) : Program String := do
  match chooseDisk zone (← c.group.call .listDisks) with
  | .use d => return d.name
  | .move d =>
    migrateDisk c d
    return ""
  | .nothing => return ""

end TenantFleet.Etcd
