/-
# Scale sets and their instances

A scale set is a group of like virtual machines. What this library does not know of a scale set or
of an instance is kept as it was read and sent back, so that reading, changing and writing drops
nothing there.
-/
import TenantFleet.Resource.Disk

namespace TenantFleet

/-! ## Sizes -/

/-- The machine size of a scale set or instance. -/
structure Sku where
  /-- The machine size. -/
  name : Option String := none
  /-- The price tier. -/
  tier : Option String := none
  /-- The number of instances. -/
  capacity : Option Int := none
  deriving DecidableEq, Inhabited

namespace Sku

/-- Reads a machine size. -/
def read : Reader Sku := fun x => do
  let ms ← Reader.members ["name", "tier", "capacity"] x
  return {
    name := ← Reader.optional Reader.text ms "name"
    tier := ← Reader.optional Reader.text ms "tier"
    capacity := ← Reader.optional Reader.int64 ms "capacity" }

/-- The document of a machine size. -/
def toJson (s : Sku) : Json :=
  .record [
    ("name", s.name.map .str),
    ("tier", s.tier.map .str),
    ("capacity", s.capacity.map .int)]

end Sku

/-! ## Scale sets -/

/-- A virtual machine scale set. -/
structure ScaleSet where
  /-- The resource ID. -/
  id : Option String := none
  /-- The name. -/
  name : Option String := none
  /-- The region. -/
  location : String
  /-- The tags. -/
  tags : Dict String := .empty
  /-- The machine size and the number of instances. -/
  sku : Option Sku := none
  /-- The availability zones. -/
  zones : List String := []
  /-- All other properties, kept as they are. -/
  properties : Option Json := none
  deriving DecidableEq, Inhabited

namespace ScaleSet

/-- Reads a scale set. -/
def read : Reader ScaleSet := fun x => do
  let ms ← Reader.members ["id", "name", "location", "tags", "sku", "zones", "properties"] x
  return {
    id := ← Reader.optional Reader.text ms "id"
    name := ← Reader.optional Reader.text ms "name"
    location := ← Reader.required Reader.text ms "location"
    tags := ← Reader.defaulted Reader.texts .empty ms "tags"
    sku := ← Reader.optional Sku.read ms "sku"
    zones := ← Reader.defaulted (Reader.list Reader.text) [] ms "zones"
    properties := ← Reader.optional Reader.any ms "properties" }

/-- The document of a scale set. -/
def toJson (s : ScaleSet) : Json :=
  .record [
    ("id", s.id.map .str),
    ("name", s.name.map .str),
    ("location", some (.str s.location)),
    ("tags", some (.ofTexts s.tags)),
    ("sku", s.sku.map Sku.toJson),
    ("zones", if s.zones.isEmpty then none else some (.ofTextList s.zones)),
    ("properties", s.properties)]

/-- The number of instances, zero when unknown. -/
def capacity (s : ScaleSet) : Int := (s.sku.bind Sku.capacity).getD 0

/-- The machine size. -/
def skuName (s : ScaleSet) : Option String := s.sku.bind Sku.name

end ScaleSet

/-! ## Data disks of an instance -/

/-- A data disk of an instance. -/
structure DataDisk where
  /-- The logical unit number. -/
  lun : Int
  /-- The name of the disk. -/
  name : Option String := none
  /-- How the disk is provided. -/
  createOption : CreateOption
  /-- The reference to a managed disk, and the ID it holds. -/
  managedDisk : Option (Option String) := none
  /-- The size in GiB. -/
  sizeGB : Option Int := none
  deriving DecidableEq, Inhabited

namespace DataDisk

/-- A reference to another resource: an object with an ID. -/
def readReference : Reader (Option String) := fun x => do
  let ms ← Reader.members ["id"] x
  Reader.optional Reader.text ms "id"

/-- The document of a reference. -/
def referenceJson (id : Option String) : Json := .record [("id", id.map .str)]

/-- Reads a data disk. -/
def read : Reader DataDisk := fun x => do
  let ms ← Reader.members ["lun", "name", "createOption", "managedDisk", "diskSizeGB"] x
  return {
    lun := ← Reader.required Reader.int32 ms "lun"
    name := ← Reader.optional Reader.text ms "name"
    createOption := ← Reader.required CreateOption.read ms "createOption"
    managedDisk := ← Reader.optional readReference ms "managedDisk"
    sizeGB := ← Reader.optional Reader.int32 ms "diskSizeGB" }

/-- The document of a data disk. -/
def toJson (d : DataDisk) : Json :=
  .record [
    ("lun", some (.int d.lun)),
    ("name", d.name.map .str),
    ("createOption", some d.createOption.toJson),
    ("managedDisk", d.managedDisk.map referenceJson),
    ("diskSizeGB", d.sizeGB.map .int)]

end DataDisk

/-- The storage of an instance. -/
structure StorageProfile where
  /-- The data disks. -/
  dataDisks : List DataDisk := []
  /-- All other members, kept as they are. -/
  extra : Dict Json := .empty
  deriving DecidableEq, Inhabited

namespace StorageProfile

/-- Reads the storage of an instance. -/
def read : Reader StorageProfile := fun x => do
  let names := ["dataDisks"]
  let ms ← Reader.namedMembers names x
  return {
    dataDisks := ← Reader.defaulted (Reader.list DataDisk.read) [] ms "dataDisks"
    extra := ← Reader.others names ms }

/-- The document of the storage of an instance. -/
def toJson (p : StorageProfile) : Json :=
  .object (p.extra.entries ++ [("dataDisks", .arr (p.dataDisks.map DataDisk.toJson))])

end StorageProfile

/-! ## Instances -/

/-- An instance of a scale set. -/
structure Instance where
  /-- The resource ID. -/
  id : Option String := none
  /-- The name. -/
  name : Option String := none
  /-- The ID within the scale set. -/
  instanceId : String := ""
  /-- The region. -/
  location : String := ""
  /-- The tags. -/
  tags : Dict String := .empty
  /-- The availability zones. -/
  zones : List String := []
  /-- The machine size. -/
  sku : Option Sku := none
  /-- Whether the latest scale set model is applied, as reported. -/
  latestModel : Option Bool := none
  /-- The reported provisioning state. -/
  provisioningState : Option String := none
  /-- The storage. -/
  storage : Option StorageProfile := none
  /-- All other properties, kept as they are. -/
  extra : Dict Json := .empty
  deriving DecidableEq, Inhabited

namespace Instance

/-- The part of an instance that stands under its properties. -/
structure Properties where
  /-- Whether the latest scale set model is applied. -/
  latestModel : Option Bool := none
  /-- The provisioning state. -/
  provisioningState : Option String := none
  /-- The storage. -/
  storage : Option StorageProfile := none
  /-- All other properties. -/
  extra : Dict Json := .empty
  deriving Inhabited

/-- Reads the properties of an instance. -/
def readProperties : Reader Properties := fun x => do
  let names := ["latestModelApplied", "provisioningState", "storageProfile"]
  let ms ← Reader.namedMembers names x
  return {
    latestModel := ← Reader.optional Reader.bool ms "latestModelApplied"
    provisioningState := ← Reader.optional Reader.text ms "provisioningState"
    storage := ← Reader.optional StorageProfile.read ms "storageProfile"
    extra := ← Reader.others names ms }

/-- Reads an instance. -/
def read : Reader Instance := fun x => do
  let ms ← Reader.members
    ["id", "name", "instanceId", "location", "tags", "zones", "sku", "properties"] x
  let id ← Reader.optional Reader.text ms "id"
  let name ← Reader.optional Reader.text ms "name"
  let instanceId ← Reader.defaulted Reader.text "" ms "instanceId"
  let location ← Reader.defaulted Reader.text "" ms "location"
  let tags ← Reader.defaulted Reader.texts .empty ms "tags"
  let zones ← Reader.defaulted (Reader.list Reader.text) [] ms "zones"
  let sku ← Reader.optional Sku.read ms "sku"
  let p ← Reader.defaulted readProperties {} ms "properties"
  return ⟨id, name, instanceId, location, tags, zones, sku, p.latestModel, p.provisioningState,
    p.storage, p.extra⟩

/-- The document of the properties of an instance, without what the cloud reports. -/
def propertiesJson (v : Instance) : Json :=
  .object (v.extra.entries ++
    match v.storage with
    | some p => [("storageProfile", p.toJson)]
    | none => [])

/-- The document of an instance, without what the cloud reports. -/
def toJson (v : Instance) : Json :=
  .record [
    ("id", v.id.map .str),
    ("name", v.name.map .str),
    ("instanceId", some (.str v.instanceId)),
    ("location", some (.str v.location)),
    ("tags", some (.ofTexts v.tags)),
    ("zones", if v.zones.isEmpty then none else some (.ofTextList v.zones)),
    ("sku", v.sku.map Sku.toJson),
    ("properties", some v.propertiesJson)]

/-- Whether the instance is ready. -/
def succeeded (v : Instance) : Bool := v.provisioningState = some provisioningSucceeded

/-- Whether the instance runs the latest scale set model. -/
def latest (v : Instance) : Bool := v.latestModel.getD false

/-- The first availability zone. -/
def zone (v : Instance) : Option String := v.zones.head?

/-- The machine size. -/
def skuName (v : Instance) : Option String := v.sku.bind Sku.name

/-- The data disks. -/
def dataDisks (v : Instance) : List DataDisk := (v.storage.map StorageProfile.dataDisks).getD []

/-- The first data disk at a logical unit. -/
def diskAt (v : Instance) (lun : Int) : Option DataDisk := v.dataDisks.find? (fun d => d.lun = lun)

/-- The instance with a managed disk added at a logical unit. -/
def attach (v : Instance) (lun : Int) (name diskId : String) : Instance :=
  let p := v.storage.getD {}
  let disk : DataDisk :=
    { lun := lun, name := some name, createOption := .attach, managedDisk := some (some diskId) }
  { v with storage := some { p with dataDisks := p.dataDisks ++ [disk] } }

/-- Whether a tag has the given value. -/
def hasTag (v : Instance) (key value : String) : Bool := v.tags.get? key = some value

/-- Attaching adds one disk behind the others. -/
theorem dataDisks_attach (v : Instance) (lun : Int) (name diskId : String) :
    (v.attach lun name diskId).dataDisks = v.dataDisks ++
      [{ lun := lun, name := some name, createOption := .attach,
         managedDisk := some (some diskId) }] := by
  unfold attach dataDisks
  cases v.storage <;> rfl

end Instance

/-! ## Run time state -/

/-- One status of an instance: its code and a label. -/
structure ViewStatus where
  /-- The status code. -/
  code : Option String := none
  /-- The label. -/
  display : Option String := none
  deriving DecidableEq, Inhabited

/-- The run time state of an instance. -/
structure InstanceView where
  /-- The statuses. -/
  statuses : List ViewStatus := []
  deriving DecidableEq, Inhabited

/-- The status code of a running machine. -/
def powerRunning : String := "PowerState/running"

/-- The status code of a machine that is stopped and released. -/
def powerDeallocated : String := "PowerState/deallocated"

namespace InstanceView

/-- Reads one status. -/
def readStatus : Reader ViewStatus := fun x => do
  let ms ← Reader.members ["code", "displayStatus"] x
  return {
    code := ← Reader.optional Reader.text ms "code"
    display := ← Reader.optional Reader.text ms "displayStatus" }

/-- Reads a run time state. -/
def read : Reader InstanceView := fun x => do
  let ms ← Reader.members ["statuses"] x
  return { statuses := ← Reader.defaulted (Reader.list readStatus) [] ms "statuses" }

/-- The document of a run time state. -/
def toJson (v : InstanceView) : Json :=
  .record [("statuses", some (.arr (v.statuses.map fun s =>
    .record [("code", s.code.map .str), ("displayStatus", s.display.map .str)])))]

/-- Whether some status has the given code. -/
def hasStatus (v : InstanceView) (code : String) : Bool := v.statuses.any fun s =>
    s.code = some code

/-- Whether the machine is stopped and released. -/
def deallocated (v : InstanceView) : Bool := v.hasStatus powerDeallocated

/-- Whether the machine is running. -/
def running (v : InstanceView) : Bool := v.hasStatus powerRunning

/-- The state with a single status. -/
def ofCode (code : String) : InstanceView := { statuses := [{ code := some code }] }

end InstanceView

/-! ## Requests on instances -/

/-- A command to run on an instance. -/
structure RunCommand where
  /-- The kind of command. -/
  commandId : String
  /-- The lines of the script. -/
  script : List String
  deriving DecidableEq, Inhabited

namespace RunCommand

/-- Reads a command. -/
def read : Reader RunCommand := fun x => do
  let ms ← Reader.members ["commandId", "script"] x
  return {
    commandId := ← Reader.required Reader.text ms "commandId"
    script := ← Reader.required (Reader.list Reader.text) ms "script" }

/-- The document of a command. -/
def toJson (c : RunCommand) : Json :=
  .record [("commandId", some (.str c.commandId)), ("script", some (.ofTextList c.script))]

end RunCommand

/-- Reads the instances that a request on several names. -/
def readInstanceIds : Reader (List String) := fun x => do
  let ms ← Reader.members ["instanceIds"] x
  Reader.required (Reader.list Reader.text) ms "instanceIds"

/-- The document of the instances that a request names. -/
def instanceIdsJson (ids : List String) : Json := .record [("instanceIds", some (.ofTextList ids))]

end TenantFleet
