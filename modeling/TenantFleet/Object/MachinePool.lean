/-
# Machine pools and clusters

A `MachinePool` declares how many workers a pool has; the `AzureMachinePool` it owns declares what
they look like in the cloud. A `Cluster` is the whole they belong to.
-/
import TenantFleet.Object.Metadata

namespace TenantFleet

/-! ## The pool in the cloud -/

/-- The status of a pool in the cloud. -/
structure AzureMachinePoolStatus where
  /-- What the handlers keep. -/
  resources : HandlerMaps := .empty
  /-- The instances last seen running. -/
  replicas : Option Int := none
  /-- The conditions of the pool. -/
  conditions : List Condition := []
  deriving DecidableEq, Inhabited

/-- The declaration of a pool in the cloud. -/
structure AzureMachinePool where
  metadata : Metadata
  /-- The region. -/
  location : String
  /-- The machine size. -/
  vmSize : String
  /-- The size of the data disk in GB. -/
  dataDiskSizeGB : Option Nat := none
  status : Option AzureMachinePoolStatus := none
  deriving DecidableEq, Inhabited

namespace AzureMachinePoolStatus

/-- Reads a status. -/
def read : Reader AzureMachinePoolStatus := fun x => do
  let ms ← Reader.members ["resources", "replicas", "conditions"] x
  return {
    resources := ← Reader.defaulted HandlerMaps.read .empty ms "resources"
    replicas := ← Reader.optional Reader.int32 ms "replicas"
    conditions := ← Reader.defaulted (Reader.list Condition.read) [] ms "conditions" }

/-- The document of a status. -/
def toJson (s : AzureMachinePoolStatus) : Json :=
  .record [
    ("resources", some s.resources.toJson),
    ("replicas", s.replicas.map .int),
    ("conditions",
      if s.conditions.isEmpty then none else some (.arr (s.conditions.map Condition.toJson)))]

end AzureMachinePoolStatus

namespace AzureMachinePool

/-- The kind of a pool in the cloud. -/
def kind : ObjectKind :=
  ⟨"infrastructure.cluster.x-k8s.io", "v1alpha3", "AzureMachinePool", "azuremachinepools"⟩

/-- The machine size and the size of the data disk. -/
def readTemplate : Reader (String × Option Nat) := fun x => do
  let ms ← Reader.members ["vmSize", "dataDiskSizeGb"] x
  return (← Reader.required Reader.text ms "vmSize",
    ← Reader.optional (Reader.natBits 32) ms "dataDiskSizeGb")

/-- The region and the machine template. -/
def readSpec : Reader (String × String × Option Nat) := fun x => do
  let ms ← Reader.members ["location", "template"] x
  return (← Reader.required Reader.text ms "location", ← Reader.required readTemplate ms "template")

/-- Reads a pool in the cloud. -/
def read : Reader AzureMachinePool := fun x => do
  let ms ← Reader.objectMembers x
  let metadata ← Reader.required Metadata.read ms "metadata"
  let (location, vmSize, size) ← Reader.required readSpec ms "spec"
  let status ← Reader.optional AzureMachinePoolStatus.read ms "status"
  return ⟨metadata, location, vmSize, size, status⟩

/-- The document of a pool in the cloud. -/
def toJson (p : AzureMachinePool) : Json :=
  objectJson kind p.metadata
    (.record [
      ("location", some (.str p.location)),
      ("template", some (.record [
        ("vmSize", some (.str p.vmSize)),
        ("dataDiskSizeGb", p.dataDiskSizeGB.map .nat)]))])
    (p.status.map AzureMachinePoolStatus.toJson)

/-- What the handlers keep, if there is a status. -/
def maps (p : AzureMachinePool) : Option HandlerMaps :=
  p.status.map AzureMachinePoolStatus.resources

/-- The pool with what the handlers keep changed. -/
def modifyMaps (p : AzureMachinePool) (f : HandlerMaps → HandlerMaps) : AzureMachinePool :=
  let status := p.status.getD {}
  { p with status := some { status with resources := f status.resources } }

end AzureMachinePool

/-! ## The pool -/

/-- The status of a pool. -/
structure MachinePoolStatus where
  /-- The workers that are ready. -/
  readyReplicas : Option Int := none
  /-- The conditions of the pool. -/
  conditions : List Condition := []
  deriving DecidableEq, Inhabited

/-- The declaration of a pool. -/
structure MachinePool where
  metadata : Metadata
  /-- The name of the cluster. -/
  clusterName : String
  /-- The desired number of workers. -/
  replicas : Option Int := none
  status : Option MachinePoolStatus := none
  deriving DecidableEq, Inhabited

namespace MachinePool

/-- The kind of a pool. -/
def kind : ObjectKind := ⟨"exp.cluster.x-k8s.io", "v1alpha3", "MachinePool", "machinepools"⟩

/-- The cluster and the number of workers. -/
def readSpec : Reader (String × Option Int) := fun x => do
  let ms ← Reader.members ["clusterName", "replicas"] x
  return (← Reader.required Reader.text ms "clusterName",
    ← Reader.optional Reader.int32 ms "replicas")

/-- Reads a status. -/
def readStatus : Reader MachinePoolStatus := fun x => do
  let ms ← Reader.members ["readyReplicas", "conditions"] x
  return {
    readyReplicas := ← Reader.optional Reader.int32 ms "readyReplicas"
    conditions := ← Reader.defaulted (Reader.list Condition.read) [] ms "conditions" }

/-- Reads a pool. -/
def read : Reader MachinePool := fun x => do
  let ms ← Reader.objectMembers x
  let metadata ← Reader.required Metadata.read ms "metadata"
  let (clusterName, replicas) ← Reader.required readSpec ms "spec"
  let status ← Reader.optional readStatus ms "status"
  return ⟨metadata, clusterName, replicas, status⟩

/-- The document of a status. -/
def statusJson (s : MachinePoolStatus) : Json :=
  .record [
    ("readyReplicas", s.readyReplicas.map .int),
    ("conditions",
      if s.conditions.isEmpty then none else some (.arr (s.conditions.map Condition.toJson)))]

/-- The document of a pool. -/
def toJson (p : MachinePool) : Json :=
  objectJson kind p.metadata
    (.record [
      ("clusterName", some (.str p.clusterName)),
      ("replicas", p.replicas.map .int)])
    (p.status.map statusJson)

/-- The desired number of workers, one unless declared. -/
def desired (p : MachinePool) : Int := p.replicas.getD 1

end MachinePool

/-! ## The cluster -/

/-- The status of a cluster. -/
structure ClusterStatus where
  /-- The phase. -/
  phase : Option String := none
  /-- Whether the control plane is ready. -/
  controlPlaneReady : Bool := false
  deriving DecidableEq, Inhabited

/-- A cluster. -/
structure Cluster where
  metadata : Metadata
  /-- Whether the cluster is left alone. -/
  paused : Bool := false
  status : Option ClusterStatus := none
  deriving DecidableEq, Inhabited

namespace Cluster

/-- The kind of a cluster. -/
def kind : ObjectKind := ⟨"cluster.x-k8s.io", "v1alpha3", "Cluster", "clusters"⟩

/-- Whether the cluster is left alone. -/
def readSpec : Reader Bool := fun x => do
  let ms ← Reader.members ["paused"] x
  Reader.defaulted Reader.bool false ms "paused"

/-- Reads a status. -/
def readStatus : Reader ClusterStatus := fun x => do
  let ms ← Reader.members ["phase", "controlPlaneReady"] x
  return {
    phase := ← Reader.optional Reader.text ms "phase"
    controlPlaneReady := ← Reader.defaulted Reader.bool false ms "controlPlaneReady" }

/-- Reads a cluster. -/
def read : Reader Cluster := fun x => do
  let ms ← Reader.objectMembers x
  let metadata ← Reader.required Metadata.read ms "metadata"
  let paused ← Reader.required readSpec ms "spec"
  let status ← Reader.optional readStatus ms "status"
  return ⟨metadata, paused, status⟩

/-- The document of a cluster. -/
def toJson (c : Cluster) : Json :=
  objectJson kind c.metadata (.record [("paused", some (.bool c.paused))])
    (c.status.map fun s => .record [
      ("phase", s.phase.map .str),
      ("controlPlaneReady", some (.bool s.controlPlaneReady))])

end Cluster

end TenantFleet
