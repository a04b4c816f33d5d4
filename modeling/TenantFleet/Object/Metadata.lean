/-
# Metadata, conditions and handler state of objects

Every object of a cluster has a name, mostly in a namespace, labels and owners. Its status lists
conditions, and for each handler a map of texts that the handler keeps between two passes.
-/
import TenantFleet.Json.Reader
import TenantFleet.Time.Iso
import TenantFleet.Time.Loose

namespace TenantFleet

/-! ## Metadata -/

/-- A reference to an object that owns another one. -/
structure OwnerReference where
  /-- The group and version of the owner. -/
  apiVersion : String := ""
  /-- Whether the owner's deletion waits for this object. -/
  blockDeletion : Option Bool := none
  /-- Whether the owner manages the object. -/
  controller : Option Bool := none
  /-- The kind of the owner. -/
  kind : String := ""
  /-- The name of the owner. -/
  name : String := ""
  /-- The unique ID of the owner. -/
  uid : String := ""
  deriving DecidableEq, Inhabited

/-- A record of which fields a writer owns. -/
structure ManagedFields where
  /-- The group and version the fields are in. -/
  apiVersion : Option String := none
  /-- The format of the fields. -/
  fieldsType : Option String := none
  /-- The fields. -/
  fields : Option Json := none
  /-- The writer. -/
  manager : Option String := none
  /-- The kind of write. -/
  operation : Option String := none
  /-- The part of the object that was written. -/
  subresource : Option String := none
  /-- When it was written. -/
  time : Option Timestamp := none
  deriving DecidableEq, Inhabited

/-- The metadata of an object. -/
structure Metadata where
  annotations : Option (Dict String) := none
  creationTimestamp : Option Timestamp := none
  deletionGracePeriod : Option Int := none
  deletionTimestamp : Option Timestamp := none
  finalizers : Option (List String) := none
  generateName : Option String := none
  generation : Option Int := none
  labels : Option (Dict String) := none
  managedFields : Option (List ManagedFields) := none
  name : Option String := none
  space : Option String := none
  owners : Option (List OwnerReference) := none
  resourceVersion : Option String := none
  selfLink : Option String := none
  uid : Option String := none
  deriving DecidableEq, Inhabited

/-- A point in time of the metadata of an object. -/
def Reader.time : Reader Timestamp
  | .str s => Timestamp.parseIso? s
  | _ => none

/-- A point in time of a condition, which is read loosely. -/
def Reader.looseTime : Reader Timestamp
  | .str s => Timestamp.parseLoose? s
  | _ => none

namespace OwnerReference

/-- Reads a reference to an owner. -/
def read : Reader OwnerReference := fun x => do
  let ms ← Reader.lastMembers x
  return {
    apiVersion := ← Reader.lenient Reader.text "" ms "apiVersion"
    blockDeletion := ← Reader.optional Reader.bool ms "blockOwnerDeletion"
    controller := ← Reader.optional Reader.bool ms "controller"
    kind := ← Reader.lenient Reader.text "" ms "kind"
    name := ← Reader.lenient Reader.text "" ms "name"
    uid := ← Reader.lenient Reader.text "" ms "uid" }

/-- The document of a reference to an owner. -/
def toJson (o : OwnerReference) : Json :=
  .record [
    ("apiVersion", some (.str o.apiVersion)),
    ("blockOwnerDeletion", o.blockDeletion.map .bool),
    ("controller", o.controller.map .bool),
    ("kind", some (.str o.kind)),
    ("name", some (.str o.name)),
    ("uid", some (.str o.uid))]

end OwnerReference

namespace ManagedFields

/-- Reads a record of owned fields. -/
def read : Reader ManagedFields := fun x => do
  let ms ← Reader.lastMembers x
  return {
    apiVersion := ← Reader.optional Reader.text ms "apiVersion"
    fieldsType := ← Reader.optional Reader.text ms "fieldsType"
    fields := ← Reader.optional Reader.any ms "fieldsV1"
    manager := ← Reader.optional Reader.text ms "manager"
    operation := ← Reader.optional Reader.text ms "operation"
    subresource := ← Reader.optional Reader.text ms "subresource"
    time := ← Reader.optional Reader.time ms "time" }

/-- The document of a record of owned fields. -/
def toJson (m : ManagedFields) : Json :=
  .record [
    ("apiVersion", m.apiVersion.map .str),
    ("fieldsType", m.fieldsType.map .str),
    ("fieldsV1", m.fields),
    ("manager", m.manager.map .str),
    ("operation", m.operation.map .str),
    ("subresource", m.subresource.map .str),
    ("time", m.time.map fun t => .str t.isoSeconds)]

end ManagedFields

namespace Metadata

/-- Reads metadata. -/
def read : Reader Metadata := fun x => do
  let ms ← Reader.lastMembers x
  return {
    annotations := ← Reader.optional Reader.texts ms "annotations"
    creationTimestamp := ← Reader.optional Reader.time ms "creationTimestamp"
    deletionGracePeriod := ← Reader.optional Reader.int64 ms "deletionGracePeriodSeconds"
    deletionTimestamp := ← Reader.optional Reader.time ms "deletionTimestamp"
    finalizers := ← Reader.optional (Reader.list Reader.text) ms "finalizers"
    generateName := ← Reader.optional Reader.text ms "generateName"
    generation := ← Reader.optional Reader.int64 ms "generation"
    labels := ← Reader.optional Reader.texts ms "labels"
    managedFields := ← Reader.optional (Reader.list ManagedFields.read) ms "managedFields"
    name := ← Reader.optional Reader.text ms "name"
    space := ← Reader.optional Reader.text ms "namespace"
    owners := ← Reader.optional (Reader.list OwnerReference.read) ms "ownerReferences"
    resourceVersion := ← Reader.optional Reader.text ms "resourceVersion"
    selfLink := ← Reader.optional Reader.text ms "selfLink"
    uid := ← Reader.optional Reader.text ms "uid" }

/-- The document of metadata. -/
def toJson (m : Metadata) : Json :=
  .record [
    ("annotations", m.annotations.map .ofTexts),
    ("creationTimestamp", m.creationTimestamp.map fun t => .str t.isoSeconds),
    ("deletionGracePeriodSeconds", m.deletionGracePeriod.map .int),
    ("deletionTimestamp", m.deletionTimestamp.map fun t => .str t.isoSeconds),
    ("finalizers", m.finalizers.map .ofTextList),
    ("generateName", m.generateName.map .str),
    ("generation", m.generation.map .int),
    ("labels", m.labels.map .ofTexts),
    ("managedFields", m.managedFields.map fun l => .arr (l.map ManagedFields.toJson)),
    ("name", m.name.map .str),
    ("namespace", m.space.map .str),
    ("ownerReferences", m.owners.map fun l => .arr (l.map OwnerReference.toJson)),
    ("resourceVersion", m.resourceVersion.map .str),
    ("selfLink", m.selfLink.map .str),
    ("uid", m.uid.map .str)]

/-- The namespace, empty when there is none. -/
def spaceName (m : Metadata) : String := m.space.getD ""

/-- The name, else the stem that a name is made from, else nothing. -/
def anyName (m : Metadata) : String := (m.name <|> m.generateName).getD ""

/-- The namespace and the name. -/
def key (m : Metadata) : String := m.spaceName ++ "/" ++ m.anyName

/-- The value of a label. -/
def label? (m : Metadata) (key : String) : Option String := m.labels.bind (·.get? key)

/-- Whether the object is being deleted. -/
def deleting (m : Metadata) : Bool := m.deletionTimestamp.isSome

end Metadata

/-! ## Conditions -/

/-- A condition of an object. -/
structure Condition where
  /-- What the condition says. -/
  type : String
  /-- Whether it holds: `True`, `False` or `Unknown`. -/
  status : String
  /-- Why, for machines. -/
  reason : Option String := none
  /-- Why, for people. -/
  message : Option String := none
  /-- Since when. -/
  since : Option Timestamp := none
  deriving DecidableEq, Inhabited

namespace Condition

/-- Reads a condition. -/
def read : Reader Condition := fun x => do
  let ms ← Reader.members ["type", "status", "reason", "message", "lastTransitionTime"] x
  return {
    type := ← Reader.required Reader.text ms "type"
    status := ← Reader.required Reader.text ms "status"
    reason := ← Reader.optional Reader.text ms "reason"
    message := ← Reader.optional Reader.text ms "message"
    since := ← Reader.optional Reader.looseTime ms "lastTransitionTime" }

/-- The document of a condition. -/
def toJson (c : Condition) : Json :=
  .record [
    ("type", some (.str c.type)),
    ("status", some (.str c.status)),
    ("reason", c.reason.map .str),
    ("message", c.message.map .str),
    ("lastTransitionTime", c.since.map fun t => .str t.fractional)]

/-- Whether the condition has the given type and holds. -/
def isTrue (c : Condition) (type : String) : Bool := c.type = type && c.status = "True"

/-- Whether a condition of the given type holds. -/
def anyTrue (l : List Condition) (type : String) : Bool := l.any (·.isTrue type)

end Condition

/-! ## Handler state -/

/-- What the handlers keep between two passes: a map of texts for each handler. -/
abbrev HandlerMaps := Dict (Dict String)

/-- Reads what the handlers keep. -/
def HandlerMaps.read : Reader HandlerMaps := Reader.dict Reader.texts

/-- The document of what the handlers keep. -/
def HandlerMaps.toJson (m : HandlerMaps) : Json := .ofDict .ofTexts m

/-! ## Whole objects -/

/-- The group, version and kind of an object. -/
structure ObjectKind where
  /-- The group; empty for the core group. -/
  group : String
  /-- The version. -/
  version : String
  /-- The kind. -/
  kind : String
  /-- The name of the collection in addresses. -/
  collection : String
  deriving DecidableEq, Inhabited

/-- The group and version as they stand in documents. -/
def ObjectKind.apiVersion (k : ObjectKind) : String :=
  if k.group.isEmpty then k.version else k.group ++ "/" ++ k.version

/-- The members of an object that has a status: all three are there when it is written as a list. -/
def Reader.objectMembers : Reader Reader.Members
  | .arr [m, s, t] => some [("metadata", m), ("spec", s), ("status", t)]
  | .arr _ => none
  | x => Reader.namedMembers ["metadata", "spec", "status"] x

/-- The document of an object. -/
def objectJson (k : ObjectKind) (metadata : Metadata) (spec : Json) (status : Option Json) : Json :=
  .record [
    ("apiVersion", some (.str k.apiVersion)),
    ("kind", some (.str k.kind)),
    ("metadata", some metadata.toJson),
    ("spec", some spec),
    ("status", status)]

end TenantFleet
