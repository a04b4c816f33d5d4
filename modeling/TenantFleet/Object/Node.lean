/-
# Nodes and secrets

A node of a tenant cluster is known by its name and labels, can be closed for new work, and reports
whether it is ready. A secret holds named byte sequences.
-/
import TenantFleet.Object.Metadata
import TenantFleet.Text.Base64

namespace TenantFleet

/-! ## Nodes -/

/-- A node of a cluster. -/
structure Node where
  metadata : Metadata := {}
  /-- Whether new work is kept away. -/
  unschedulable? : Option Bool := none
  /-- The type and the status of each condition. -/
  conditions : List (String × String) := []
  deriving DecidableEq, Inhabited

namespace Node

/-- The kind of a node. -/
def kind : ObjectKind := ⟨"", "v1", "Node", "nodes"⟩

/-- A text that is only checked. -/
def aText : Reader Unit := Reader.unit Reader.text

/-- A list of texts that is only checked. -/
def someTexts : Reader Unit := Reader.unit (Reader.list Reader.text)

/-- A list of records that is only checked. -/
def someRecords (members : List (String × Reader Unit)) : Reader Unit :=
  Reader.unit (Reader.list (Reader.shape members))

/-- Where the configuration of a node comes from. -/
def configSource : Reader Unit :=
  Reader.shape [("configMap", Reader.shape [
    ("kubeletConfigKey", aText), ("name", aText), ("namespace", aText), ("resourceVersion", aText),
    ("uid", aText)])]

/-- The members of what is wanted of a node, besides whether new work is kept away. -/
def specShape : List (String × Reader Unit) := [
  ("configSource", configSource),
  ("externalID", aText),
  ("podCIDR", aText),
  ("podCIDRs", someTexts),
  ("providerID", aText),
  ("taints", someRecords [
    ("effect", aText), ("key", aText), ("timeAdded", Reader.unit Reader.time), ("value", aText)])]

/-- The members of a condition, besides its type and its status. -/
def conditionShape : List (String × Reader Unit) := [
  ("lastHeartbeatTime", Reader.unit Reader.time),
  ("lastTransitionTime", Reader.unit Reader.time),
  ("message", aText),
  ("reason", aText)]

/-- The members of what a node reports about its machine. -/
def machineShape : List (String × Reader Unit) :=
  ["architecture", "bootID", "containerRuntimeVersion", "kernelVersion", "kubeProxyVersion",
    "kubeletVersion", "machineID", "operatingSystem", "osImage", "systemUUID"].map fun n =>
      (n, aText)

/-- The members of the status of a node, besides its conditions. -/
def statusShape : List (String × Reader Unit) := [
  ("addresses", someRecords [("address", aText), ("type", aText)]),
  ("allocatable", Reader.unit Reader.texts),
  ("capacity", Reader.unit Reader.texts),
  ("config", Reader.shape [
    ("active", configSource), ("assigned", configSource), ("error", aText),
    ("lastKnownGood", configSource)]),
  ("daemonEndpoints", Reader.shape [
    ("kubeletEndpoint", Reader.shape [("Port", Reader.unit Reader.int32)])]),
  ("features", Reader.shape [("supplementalGroupsPolicy", Reader.unit Reader.bool)]),
  ("images", someRecords [("names", someTexts), ("sizeBytes", Reader.unit Reader.int64)]),
  ("nodeInfo", Reader.shape machineShape),
  ("phase", aText),
  ("runtimeHandlers", someRecords [
    ("features", Reader.shape [
      ("recursiveReadOnlyMounts", Reader.unit Reader.bool),
      ("userNamespaces", Reader.unit Reader.bool)]),
    ("name", aText)]),
  ("volumesAttached", someRecords [("devicePath", aText), ("name", aText)]),
  ("volumesInUse", someTexts)]

/-- Whether new work is kept away; the other members are checked. -/
def readSpec : Reader (Option Bool) := fun x => do
  let ms ← Reader.lastMembers x
  Reader.fields specShape ms
  Reader.optional Reader.bool ms "unschedulable"

/-- The type and the status of a condition; the other members are checked. -/
def readCondition : Reader (String × String) := fun x => do
  let ms ← Reader.lastMembers x
  Reader.fields conditionShape ms
  return (← Reader.lenient Reader.text "" ms "type", ← Reader.lenient Reader.text "" ms "status")

/-- The conditions in the status; the other members are checked. -/
def readStatus : Reader (List (String × String)) := fun x => do
  let ms ← Reader.lastMembers x
  Reader.fields statusShape ms
  Reader.lenient (Reader.list readCondition) [] ms "conditions"

/-- Reads a node. -/
def read : Reader Node := fun x => do
  let ms ← Reader.lastMembers x
  if Reader.saysOnly ms "apiVersion" kind.apiVersion ∧ Reader.saysOnly ms "kind" kind.kind then
    return {
      metadata := ← Reader.lenient Metadata.read {} ms "metadata"
      unschedulable? := ← (Reader.optional readSpec ms "spec").map (·.join)
      conditions := ← Reader.lenient readStatus [] ms "status" }
  else none

/-- The name, empty when unknown. -/
def name (n : Node) : String := n.metadata.name.getD ""

/-- The value of a label. -/
def label? (n : Node) (key : String) : Option String := n.metadata.label? key

/-- Whether the node reports that it is ready. -/
def ready (n : Node) : Bool := n.conditions.any fun c => c.1 = "Ready" && c.2 = "True"

/-- Whether new work is kept away. -/
def unschedulable (n : Node) : Bool := n.unschedulable?.getD false

/-- The node with new work kept away. -/
def cordon (n : Node) : Node := { n with unschedulable? := some true }

@[simp] theorem unschedulable_cordon (n : Node) : n.cordon.unschedulable = true := rfl

@[simp] theorem name_cordon (n : Node) : n.cordon.name = n.name := rfl

end Node

/-! ## Secrets -/

/-- A secret. -/
structure Secret where
  metadata : Metadata := {}
  /-- The named byte sequences. -/
  data : Option (Dict (List UInt8)) := none
  deriving Inhabited

namespace Secret

/-- The kind of a secret. -/
def kind : ObjectKind := ⟨"", "v1", "Secret", "secrets"⟩

/-- A byte sequence written in base 64. -/
def readBytes : Reader (List UInt8)
  | .str s => Base64.decode? s
  | _ => none

/-- Reads a secret. -/
def read : Reader Secret := fun x => do
  let ms ← Reader.lastMembers x
  if Reader.saysOnly ms "apiVersion" kind.apiVersion ∧ Reader.saysOnly ms "kind" kind.kind then
    Reader.check Reader.bool ms "immutable"
    Reader.check Reader.texts ms "stringData"
    Reader.check Reader.text ms "type"
    return {
      metadata := ← Reader.lenient Metadata.read {} ms "metadata"
      data := ← Reader.optional (Reader.dict readBytes) ms "data" }
  else none

/-- The bytes of a name. -/
def bytes? (s : Secret) (key : String) : Option (List UInt8) := s.data.bind (·.get? key)

end Secret

end TenantFleet
