/-
# Managed disks and snapshots

A disk lives in a region and at most one zone, may be attached to a machine, and is created empty or
as a copy of another resource. A snapshot is a copy of a disk. The provisioning state is reported by
the cloud and never sent back.
-/
import TenantFleet.Json.Reader

namespace TenantFleet

/-! ## Content -/

/-- The provisioning state of a resource that is ready. -/
def provisioningSucceeded : String := "Succeeded"

/-- The provisioning state of a resource that could not be made. -/
def provisioningFailed : String := "Failed"

/-- The provisioning state of a deployment that was called off. -/
def provisioningCanceled : String := "Canceled"

/-- The provisioning state of a resource that is going away. -/
def provisioningDeleting : String := "Deleting"

/-- How a disk or snapshot gets its first content. -/
inductive CreateOption
  | empty
  | attach
  | copy
  | fromImage
  | unknown
  deriving DecidableEq, Inhabited

namespace CreateOption

/-- The name of an option in documents. -/
def name : CreateOption → String
  | .empty => "Empty"
  | .attach => "Attach"
  | .copy => "Copy"
  | .fromImage => "FromImage"
  | .unknown => "Unknown"

/-- The option of a name; other names are kept as unknown. -/
def ofName (s : String) : CreateOption :=
  if s = "Empty" then .empty
  else if s = "Attach" then .attach
  else if s = "Copy" then .copy
  else if s = "FromImage" then .fromImage
  else .unknown

/-- Reads an option from its name, or from an object whose only member has the name and is null. -/
def read : Reader CreateOption
  | .str s => some (ofName s)
  | .obj [(s, .null)] => some (ofName s)
  | _ => none

/-- The document of an option. -/
def toJson (o : CreateOption) : Json := .str o.name

@[simp] theorem ofName_name (o : CreateOption) : ofName o.name = o := by
  cases o <;> rfl

end CreateOption

/-- Where the content of a disk or snapshot comes from. -/
structure CreationData where
  /-- How the content is made. -/
  option : CreateOption := .empty
  /-- The disk or snapshot that is copied. -/
  source : Option String := none
  deriving DecidableEq, Inhabited

namespace CreationData

/-- Reads where content comes from. -/
def read : Reader CreationData := fun x => do
  let ms ← Reader.members ["createOption", "sourceResourceId"] x
  return {
    option := ← Reader.required CreateOption.read ms "createOption"
    source := ← Reader.optional Reader.text ms "sourceResourceId" }

/-- The document of where content comes from. -/
def toJson (c : CreationData) : Json :=
  .record [
    ("createOption", some c.option.toJson),
    ("sourceResourceId", c.source.map .str)]

end CreationData

/-! ## Disks -/

/-- A managed disk. -/
structure Disk where
  /-- The resource ID. -/
  id : Option String := none
  /-- The name. -/
  name? : Option String := none
  /-- The region. -/
  location : String
  /-- The tags. -/
  tags : Dict String := .empty
  /-- The availability zones. -/
  zones : List String := []
  /-- The machine the disk is attached to. -/
  managedBy : Option String := none
  /-- The first content. -/
  creation : CreationData := {}
  /-- The size in GiB. -/
  sizeGB : Option Int := none
  /-- The reported provisioning state. -/
  provisioningState : Option String := none
  deriving DecidableEq, Inhabited

namespace Disk

/-- The properties of a disk. -/
def readProperties : Reader (CreationData × Option Int × Option String) := fun x => do
  let ms ← Reader.members ["creationData", "diskSizeGB", "provisioningState"] x
  return (← Reader.required CreationData.read ms "creationData",
    ← Reader.optional Reader.int32 ms "diskSizeGB",
    ← Reader.optional Reader.text ms "provisioningState")

/-- Reads a disk. -/
def read : Reader Disk := fun x => do
  let ms ← Reader.members ["id", "name", "location", "tags", "zones", "managedBy", "properties"] x
  let id ← Reader.optional Reader.text ms "id"
  let name ← Reader.optional Reader.text ms "name"
  let location ← Reader.required Reader.text ms "location"
  let tags ← Reader.defaulted Reader.texts .empty ms "tags"
  let zones ← Reader.defaulted (Reader.list Reader.text) [] ms "zones"
  let managedBy ← Reader.optional Reader.text ms "managedBy"
  let (creation, sizeGB, state) ← Reader.defaulted readProperties ({}, none, none) ms "properties"
  return ⟨id, name, location, tags, zones, managedBy, creation, sizeGB, state⟩

/-- The document of a disk, without what the cloud reports. -/
def toJson (d : Disk) : Json :=
  .record [
    ("id", d.id.map .str),
    ("name", d.name?.map .str),
    ("location", some (.str d.location)),
    ("tags", some (.ofTexts d.tags)),
    ("zones", if d.zones.isEmpty then none else some (.ofTextList d.zones)),
    ("managedBy", d.managedBy.map .str),
    ("properties", some (.record [
      ("creationData", some d.creation.toJson),
      ("diskSizeGB", d.sizeGB.map .int)]))]

/-- The name, empty when unknown. -/
def name (d : Disk) : String := d.name?.getD ""

/-- Whether the disk is ready. -/
def succeeded (d : Disk) : Bool := d.provisioningState = some provisioningSucceeded

/-- Whether the disk is attached to a machine. -/
def attached (d : Disk) : Bool := d.managedBy.isSome

/-- Whether a tag has the given value. -/
def hasTag (d : Disk) (key value : String) : Bool := d.tags.get? key = some value

/-- The first availability zone. -/
def zone (d : Disk) : Option String := d.zones.head?

end Disk

/-- The resource ID of a disk. -/
def diskId (subscription resourceGroup disk : String) : String :=
  "/subscriptions/" ++ subscription ++ "/resourceGroups/" ++ resourceGroup ++
    "/providers/Microsoft.Compute/disks/" ++ disk

/-! ## Snapshots -/

/-- A snapshot of a disk. -/
structure Snapshot where
  /-- The resource ID. -/
  id : Option String := none
  /-- The name. -/
  name? : Option String := none
  /-- The region. -/
  location : String
  /-- The tags. -/
  tags : Dict String := .empty
  /-- The first content. -/
  creation : CreationData := {}
  /-- Whether only differences are stored. -/
  incremental : Option Bool := none
  /-- The reported provisioning state. -/
  provisioningState : Option String := none
  deriving DecidableEq, Inhabited

namespace Snapshot

/-- The properties of a snapshot. -/
def readProperties : Reader (CreationData × Option Bool × Option String) := fun x => do
  let ms ← Reader.members ["creationData", "incremental", "provisioningState"] x
  return (← Reader.required CreationData.read ms "creationData",
    ← Reader.optional Reader.bool ms "incremental",
    ← Reader.optional Reader.text ms "provisioningState")

/-- Reads a snapshot. -/
def read : Reader Snapshot := fun x => do
  let ms ← Reader.members ["id", "name", "location", "tags", "properties"] x
  let id ← Reader.optional Reader.text ms "id"
  let name ← Reader.optional Reader.text ms "name"
  let location ← Reader.required Reader.text ms "location"
  let tags ← Reader.defaulted Reader.texts .empty ms "tags"
  let (creation, incremental, state) ←
    Reader.defaulted readProperties ({}, none, none) ms "properties"
  return ⟨id, name, location, tags, creation, incremental, state⟩

/-- The document of a snapshot, without what the cloud reports. -/
def toJson (s : Snapshot) : Json :=
  .record [
    ("id", s.id.map .str),
    ("name", s.name?.map .str),
    ("location", some (.str s.location)),
    ("tags", some (.ofTexts s.tags)),
    ("properties", some (.record [
      ("creationData", some s.creation.toJson),
      ("incremental", s.incremental.map .bool)]))]

/-- The name, empty when unknown. -/
def name (s : Snapshot) : String := s.name?.getD ""

/-- Whether the snapshot is ready. -/
def succeeded (s : Snapshot) : Bool := s.provisioningState = some provisioningSucceeded

/-- Whether a tag has the given value. -/
def hasTag (s : Snapshot) (key value : String) : Bool := s.tags.get? key = some value

end Snapshot

end TenantFleet
