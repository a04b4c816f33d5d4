/-
# Drain requests

A `DrainerConfig` asks for one node to be drained. A drainer answers in its conditions: the node is
drained, or the drainer gave up.
-/
import TenantFleet.Object.Metadata

namespace TenantFleet

/-- A request to drain a node. -/
structure DrainerConfig where
  metadata : Metadata
  /-- The cluster of the node. -/
  clusterId : String
  /-- The address of the cluster. -/
  apiEndpoint : Option String := none
  /-- The node. -/
  nodeName : String
  /-- The version of the contract with the drainer. -/
  versionBundle : Option String := none
  /-- The conditions, once the drainer has seen the request. -/
  conditions : Option (List Condition) := none
  deriving DecidableEq, Inhabited

namespace DrainerConfig

/-- The kind of a drain request. -/
def kind : ObjectKind := ⟨"core.giantswarm.io", "v1alpha1", "DrainerConfig", "drainerconfigs"⟩

/-- The condition of a drained node. -/
def drained : String := "Drained"

/-- The condition of a node that the drainer gave up on. -/
def timeout : String := "Timeout"

/-- The cluster, its address and the node. -/
def readGuest : Reader (String × Option String × String) := fun x => do
  let ms ← Reader.members ["clusterId", "apiEndpoint", "nodeName"] x
  return (← Reader.required Reader.text ms "clusterId",
    ← Reader.optional Reader.text ms "apiEndpoint",
    ← Reader.required Reader.text ms "nodeName")

/-- What the request asks for. -/
def readSpec : Reader ((String × Option String × String) × Option String) := fun x => do
  let ms ← Reader.members ["guest", "versionBundle"] x
  return (← Reader.required readGuest ms "guest", ← Reader.optional Reader.text ms "versionBundle")

/-- The conditions in the status. -/
def readStatus : Reader (List Condition) := fun x => do
  let ms ← Reader.members ["conditions"] x
  Reader.defaulted (Reader.list Condition.read) [] ms "conditions"

/-- Reads a drain request. -/
def read : Reader DrainerConfig := fun x => do
  let ms ← Reader.objectMembers x
  let metadata ← Reader.required Metadata.read ms "metadata"
  let ((clusterId, endpoint, nodeName), bundle) ← Reader.required readSpec ms "spec"
  let conditions ← Reader.optional readStatus ms "status"
  return ⟨metadata, clusterId, endpoint, nodeName, bundle, conditions⟩

/-- The document of a drain request. -/
def toJson (d : DrainerConfig) : Json :=
  objectJson kind d.metadata
    (.record [
      ("guest", some (.record [
        ("clusterId", some (.str d.clusterId)),
        ("apiEndpoint", d.apiEndpoint.map .str),
        ("nodeName", some (.str d.nodeName))])),
      ("versionBundle", d.versionBundle.map .str)])
    (d.conditions.map fun l => .record [("conditions", some (.arr (l.map Condition.toJson)))])

/-- Whether the drainer has come to an end, one way or the other. -/
def finished (d : DrainerConfig) : Bool :=
  match d.conditions with
  | some l => Condition.anyTrue l drained || Condition.anyTrue l timeout
  | none => false

end DrainerConfig

end TenantFleet
