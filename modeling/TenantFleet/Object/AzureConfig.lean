/-
# Cluster configurations

An `AzureConfig` declares a tenant cluster: its identity and names, its masters and their zones, and
the secret that opens its subscription.
-/
import TenantFleet.Object.Metadata

namespace TenantFleet

/-- The secret with the credentials of a subscription. -/
structure SecretRef where
  /-- The name. -/
  name : String
  /-- The namespace. -/
  space : String
  deriving DecidableEq, Inhabited

/-- The status of a cluster configuration. -/
structure AzureConfigStatus where
  /-- What the handlers keep. -/
  resources : HandlerMaps := .empty
  /-- The conditions of the cluster. -/
  conditions : List Condition := []
  deriving DecidableEq, Inhabited

/-- The declaration of a tenant cluster. -/
structure AzureConfig where
  metadata : Metadata
  /-- The cluster ID, also the name of its resource group. -/
  clusterId : String
  /-- The name zone of the cluster. -/
  dnsZone : String
  /-- The common name of the member certificates. -/
  etcdDomain : String
  /-- The owner of the cluster. -/
  organization : Option String := none
  /-- The region. -/
  location : String
  /-- The machine size of each master. -/
  masters : List String
  /-- The machine size of each worker of the built-in pool. -/
  workers : List String := []
  /-- The zones masters may be placed in. -/
  zones : List Nat := []
  /-- The credentials of the subscription. -/
  secret : SecretRef
  /-- Whether the network is peered with the control plane's. -/
  vnetPeering : Bool := true
  status : Option AzureConfigStatus := none
  deriving DecidableEq, Inhabited

namespace AzureConfigStatus

/-- Reads a status. -/
def read : Reader AzureConfigStatus := fun x => do
  let ms ← Reader.members ["resources", "conditions"] x
  return {
    resources := ← Reader.defaulted HandlerMaps.read .empty ms "resources"
    conditions := ← Reader.defaulted (Reader.list Condition.read) [] ms "conditions" }

/-- The document of a status. -/
def toJson (s : AzureConfigStatus) : Json :=
  .record [
    ("resources", some s.resources.toJson),
    ("conditions",
      if s.conditions.isEmpty then none else some (.arr (s.conditions.map Condition.toJson)))]

end AzureConfigStatus

namespace AzureConfig

/-- The kind of a cluster configuration. -/
def kind : ObjectKind := ⟨"provider.giantswarm.io", "v1alpha1", "AzureConfig", "azureconfigs"⟩

/-- The machine size of a node. -/
def readNode : Reader String := fun x => do
  let ms ← Reader.members ["vmSize"] x
  Reader.required Reader.text ms "vmSize"

/-- Reads a reference to a secret. -/
def readSecret : Reader SecretRef := fun x => do
  let ms ← Reader.members ["name", "namespace"] x
  return ⟨← Reader.required Reader.text ms "name", ← Reader.required Reader.text ms "namespace"⟩

/-- The domain of the member certificates. -/
def readEtcd : Reader String := fun x => do
  let ms ← Reader.members ["domain"] x
  Reader.required Reader.text ms "domain"

/-- The identity of a cluster: ID, name zone, certificate domain, organization. -/
def readCluster : Reader (String × String × String × Option String) := fun x => do
  let ms ← Reader.members ["id", "dnsZone", "etcd", "organization"] x
  return (← Reader.required Reader.text ms "id",
    ← Reader.required Reader.text ms "dnsZone",
    ← Reader.required readEtcd ms "etcd",
    ← Reader.optional Reader.text ms "organization")

/-- What a configuration says about the cloud. -/
structure CloudSpec where
  location : String
  masters : List String
  workers : List String
  zones : List Nat
  secret : SecretRef
  vnetPeering : Bool

/-- Reads what a configuration says about the cloud. -/
def readCloud : Reader CloudSpec := fun x => do
  let ms ← Reader.members
    ["location", "masters", "workers", "availabilityZones", "credentialSecret", "vnetPeering"] x
  return {
    location := ← Reader.required Reader.text ms "location"
    masters := ← Reader.required (Reader.list readNode) ms "masters"
    workers := ← Reader.defaulted (Reader.list readNode) [] ms "workers"
    zones := ← Reader.defaulted (Reader.list (Reader.natBits 32)) [] ms "availabilityZones"
    secret := ← Reader.required readSecret ms "credentialSecret"
    vnetPeering := ← Reader.defaulted Reader.bool true ms "vnetPeering" }

/-- Reads a cluster configuration. -/
def read : Reader AzureConfig := fun x => do
  let ms ← Reader.objectMembers x
  let metadata ← Reader.required Metadata.read ms "metadata"
  let readSpec : Reader ((String × String × String × Option String) × CloudSpec) := fun y => do
    let ss ← Reader.members ["cluster", "azure"] y
    return (← Reader.required readCluster ss "cluster", ← Reader.required readCloud ss "azure")
  let ((clusterId, dnsZone, etcdDomain, organization), c) ← Reader.required readSpec ms "spec"
  let status ← Reader.optional AzureConfigStatus.read ms "status"
  return ⟨metadata, clusterId, dnsZone, etcdDomain, organization, c.location, c.masters, c.workers,
    c.zones, c.secret, c.vnetPeering, status⟩

/-- The document of a machine size. -/
def nodeJson (size : String) : Json := .record [("vmSize", some (.str size))]

/-- The document of what a configuration declares. -/
def specJson (c : AzureConfig) : Json :=
  .record [
    ("cluster", some (.record [
      ("id", some (.str c.clusterId)),
      ("dnsZone", some (.str c.dnsZone)),
      ("etcd", some (.record [("domain", some (.str c.etcdDomain))])),
      ("organization", c.organization.map .str)])),
    ("azure", some (.record [
      ("location", some (.str c.location)),
      ("masters", some (.arr (c.masters.map nodeJson))),
      ("workers", some (.arr (c.workers.map nodeJson))),
      ("availabilityZones", some (.arr (c.zones.map .nat))),
      ("credentialSecret", some (.record [
        ("name", some (.str c.secret.name)),
        ("namespace", some (.str c.secret.space))])),
      ("vnetPeering", some (.bool c.vnetPeering))]))]

/-- The document of a cluster configuration. -/
def toJson (c : AzureConfig) : Json :=
  objectJson kind c.metadata c.specJson (c.status.map AzureConfigStatus.toJson)

/-- The number of declared masters. -/
def masterCount (c : AzureConfig) : Nat := c.masters.length

/-- What the handlers keep, if there is a status. -/
def maps (c : AzureConfig) : Option HandlerMaps := c.status.map AzureConfigStatus.resources

/-- The configuration with what the handlers keep changed. -/
def modifyMaps (c : AzureConfig) (f : HandlerMaps → HandlerMaps) : AzureConfig :=
  let status := c.status.getD {}
  { c with status := some { status with resources := f status.resources } }

end AzureConfig

end TenantFleet
