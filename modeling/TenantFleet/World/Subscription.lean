/-
# A subscription in memory

Resources are kept by name, whatever their group; changes take effect at once and their operations
have ended when they are accepted. Every request is written down before it is answered, and a method
can be made to fail with a status.

* `Subscription.perform` : the answer to a request and the subscription after it;
* `Subscription.answer` : the same, with the record of requests and the failures.
-/
import TenantFleet.Call.Cloud
import TenantFleet.Data.Table
import TenantFleet.Text.Quoted
import TenantFleet.Text.Unsigned

namespace TenantFleet

/-- A subscription in memory. -/
structure Subscription where
  /-- The ID. -/
  id : String
  scaleSets : Dict ScaleSet := .empty
  /-- The instances by scale set, in listing order. -/
  instances : Dict (List Instance) := .empty
  /-- The run time states that were set, by scale set and instance. -/
  views : Table InstanceView := .empty
  disks : Dict Disk := .empty
  snapshots : Dict Snapshot := .empty
  /-- The record sets, by zone and name. -/
  records : Table RecordSet := .empty
  /-- The interfaces, by scale set and instance. -/
  interfaces : Table NetworkInterface := .empty
  networks : Dict VirtualNetwork := .empty
  /-- The peerings, by network and name. -/
  peerings : Table Peering := .empty
  gateways : Dict Gateway := .empty
  connections : Dict GatewayConnection := .empty
  publicIps : Dict PublicIp := .empty
  deployments : Dict Deployment := .empty
  /-- The commands that were run, with their instances. -/
  commands : List (String × RunCommand) := []
  /-- The state that new disks, snapshots and deployments get. -/
  newState : String := provisioningSucceeded
  /-- The status that each request of a method fails with. -/
  failures : Dict Nat := .empty
  /-- The requests so far, with their targets. -/
  log : List String := []
  deriving Inhabited

namespace Subscription

/-! ## Lookups -/

/-- A result, or the failure that a resource is missing. -/
def orMissing {α : Type} (found : Option α) (what : String) : Except AzureError α :=
  match found with
  | some a => .ok a
  | none => .error (.notFound (what ++ " not found"))

/-- An operation that has ended. -/
def ended (description : String) : Except AzureError Operation := .ok { description := description }

/-- The ID of a resource of this subscription. -/
def resourceId (s : Subscription) (group path : String) : String :=
  "/subscriptions/" ++ s.id ++ "/resourceGroups/" ++ group ++ "/providers/" ++ path

/-- The instances of a scale set. -/
def instancesOf (s : Subscription) (scaleSet : String) : List Instance :=
  s.instances.getD scaleSet []

/-! ## Scale sets -/

/-- The ID after the largest number among the IDs of instances. It is a sum without a bound: when
an instance has the largest number of 64 bits, a counter of 64 bits has no next one. -/
def nextId (l : List Instance) : Nat :=
  l.foldl (fun n v =>
    match Unsigned.parse v.instanceId with
    | .ok k => max n (k + 1)
    | .error _ => n) 0

/-- A new instance of a scale set. -/
def newInstance (scaleSet : String) (model : ScaleSet) (id : Nat) : Instance :=
  { name := some (scaleSet ++ "_" ++ toString id)
    instanceId := toString id
    location := model.location
    sku := model.sku
    latestModel := some true
    provisioningState := some provisioningSucceeded }

/-- The instances of a scale set with new ones up to its capacity. The numbers of the new
ones have no bound either. -/
def grow (scaleSet : String) (model : ScaleSet) (l : List Instance) : List Instance :=
  l ++ (List.range (model.capacity.toNat - l.length)).map fun i =>
    newInstance scaleSet model (nextId l + i)

/-- Stores a scale set and adds the instances that it lacks. -/
def putScaleSet (s : Subscription) (group name : String) (value : ScaleSet) : Subscription :=
  let path := "Microsoft.Compute/virtualMachineScaleSets/" ++ name
  let stored := { value with
    name := some name
    id := some (value.id.getD (s.resourceId group path)) }
  { s with
    scaleSets := s.scaleSets.insert name stored
    instances := s.instances.insert name (grow name stored (s.instancesOf name)) }

/-- Moves instances to the latest model. -/
def updateInstances (s : Subscription) (scaleSet : String) (ids : List String) : Subscription :=
  { s with instances := s.instances.modify scaleSet fun l => l.map fun v =>
      if v.instanceId ∈ ids then { v with latestModel := some true } else v }

/-- Deletes instances; the capacity becomes the number of those that are left. -/
def deleteInstances (s : Subscription) (scaleSet : String) (ids : List String) : Subscription :=
  let left := (s.instancesOf scaleSet).filter fun v => v.instanceId ∉ ids
  { s with
    instances := s.instances.insert scaleSet left
    scaleSets := s.scaleSets.modify scaleSet fun m =>
      { m with sku := some { m.sku.getD {} with capacity := some (left.length : Int) } } }

/-- Changes the first instance of an ID. -/
def modifyFirst (inst : String) (f : Instance → Instance) : List Instance → List Instance
  | [] => []
  | v :: rest => if v.instanceId = inst then f v :: rest else v :: modifyFirst inst f rest

/-- Gives an instance the storage and the tags of another one; the disks it names belong to it. -/
def putInstance (s : Subscription) (scaleSet inst : String) (value : Instance) : Subscription :=
  let owner := value.id.getD (scaleSet ++ "/" ++ inst)
  { s with
    instances := s.instances.modify scaleSet
      (modifyFirst inst fun v => { v with storage := value.storage, tags := value.tags })
    disks := (value.dataDisks.filterMap DataDisk.name).foldl
      (fun d name => d.modify name fun disk => { disk with managedBy := some owner }) s.disks }

/-! ## Disks, snapshots and deployments -/

/-- Stores a disk; who holds it and whether it is ready stays as it was. -/
def putDisk (s : Subscription) (group name : String) (value : Disk) : Subscription :=
  let named := { value with name? := some name, id := some (diskId s.id group name) }
  let stored :=
    match s.disks.get? name with
    | some d => { named with managedBy := d.managedBy, provisioningState := d.provisioningState }
    | none => { named with provisioningState := some s.newState }
  { s with disks := s.disks.insert name stored }

/-- Stores a snapshot. -/
def putSnapshot (s : Subscription) (group name : String) (value : Snapshot) : Subscription :=
  { s with snapshots := s.snapshots.insert name { value with
      name? := some name
      id := some (s.resourceId group ("Microsoft.Compute/snapshots/" ++ name))
      provisioningState := some s.newState } }

/-- Stores a deployment. -/
def putDeployment (s : Subscription) (name : String) (value : Deployment) : Subscription :=
  { s with deployments := s.deployments.insert name { value with
      name := some name
      provisioningState := some s.newState } }

/-! ## Requests -/

/-- The subscription with the run time state of an instance set. -/
def setPower (s : Subscription) (scaleSet inst code : String) : Subscription :=
  { s with views := Table.put s.views scaleSet inst (.ofCode code) }

/-- The answer to a request and the subscription after it. -/
def perform (s : Subscription) (group : String) : (c : CloudCall) →
    Except AzureError c.Answer × Subscription
  | .wait _ => (.ok (), s)
  | .getScaleSet name => (orMissing (s.scaleSets.get? name) ("vmss " ++ name), s)
  | .putScaleSet name value => (ended ("update vmss " ++ name), s.putScaleSet group name value)
  | .updateInstances scaleSet ids =>
    (ended ("update instances " ++ Text.quotedList ids ++ " of vmss " ++ scaleSet),
      s.updateInstances scaleSet ids)
  | .deleteInstances scaleSet ids =>
    (ended ("delete instances " ++ Text.quotedList ids ++ " of vmss " ++ scaleSet),
      s.deleteInstances scaleSet ids)
  | .listInstances scaleSet =>
    (orMissing ((s.scaleSets.get? scaleSet).map fun _ => s.instancesOf scaleSet)
      ("vmss " ++ scaleSet), s)
  | .instanceView scaleSet inst =>
    (.ok ((Table.at? s.views scaleSet inst).getD (.ofCode powerRunning)), s)
  | .putInstance scaleSet inst value =>
    if (s.instancesOf scaleSet).any fun v => v.instanceId = inst then
      (ended ("update instance " ++ scaleSet ++ "/" ++ inst), s.putInstance scaleSet inst value)
    else (.error (.notFound ("instance " ++ scaleSet ++ "/" ++ inst ++ " not found")), s)
  | .start scaleSet inst =>
    (ended ("start instance " ++ scaleSet ++ "/" ++ inst), s.setPower scaleSet inst powerRunning)
  | .deallocate scaleSet inst =>
    (ended ("deallocate instance " ++ scaleSet ++ "/" ++ inst),
      s.setPower scaleSet inst powerDeallocated)
  | .reimage scaleSet inst => (ended ("reimage instance " ++ scaleSet ++ "/" ++ inst), s)
  | .runCommand scaleSet inst command =>
    (ended ("run " ++ command.commandId ++ " on " ++ scaleSet ++ "/" ++ inst),
      { s with commands := s.commands ++ [(inst, command)] })
  | .getDisk name => (orMissing (s.disks.get? name) ("disk " ++ name), s)
  | .listDisks => (.ok s.disks.values, s)
  | .putDisk name value => (ended ("create or update disk " ++ name), s.putDisk group name value)
  | .deleteDisk name => (ended ("delete disk " ++ name), { s with disks := s.disks.erase name })
  | .listSnapshots => (.ok s.snapshots.values, s)
  | .putSnapshot name value =>
    (ended ("create or update snapshot " ++ name), s.putSnapshot group name value)
  | .deleteSnapshot name =>
    (ended ("delete snapshot " ++ name), { s with snapshots := s.snapshots.erase name })
  | .getRecord zone name =>
    (orMissing (Table.at? s.records zone name) ("record set " ++ name ++ "." ++ zone), s)
  | .putRecord zone name value =>
    let stored := { value with name := some name }
    (.ok stored, { s with records := Table.put s.records zone name stored })
  | .getInterface scaleSet inst name =>
    (orMissing ((Table.at? s.interfaces scaleSet inst).map fun n => { n with name := some name })
      ("nic " ++ name ++ " of " ++ scaleSet ++ "/" ++ inst), s)
  | .getNetwork name => (orMissing (s.networks.get? name) ("vnet " ++ name), s)
  | .putPeering network name value =>
    (ended ("create or update peering " ++ network ++ "/" ++ name),
      { s with peerings := Table.put s.peerings network name value })
  | .getGateway name => (orMissing (s.gateways.get? name) ("vpn gateway " ++ name), s)
  | .deleteGateway name =>
    (ended ("delete vpn gateway " ++ name), { s with gateways := s.gateways.erase name })
  | .listConnections => (.ok s.connections.values, s)
  | .deleteConnection name =>
    (ended ("delete gateway connection " ++ name),
      { s with connections := s.connections.erase name })
  | .getPublicIp name => (orMissing (s.publicIps.get? name) ("public ip " ++ name), s)
  | .deletePublicIp name =>
    (ended ("delete public ip " ++ name), { s with publicIps := s.publicIps.erase name })
  | .getDeployment name => (orMissing (s.deployments.get? name) ("deployment " ++ name), s)
  | .putDeployment name value =>
    (ended ("create or update deployment " ++ name), s.putDeployment name value)

/-- Writes a request down, then answers it or fails as was asked for. -/
def answer (s : Subscription) (group : String) (c : CloudCall) :
    Except AzureError c.Answer × Subscription :=
  let s := { s with log := s.log ++ [c.method ++ ":" ++ c.target] }
  match s.failures.get? c.method with
  | some status => (.error (.ofStatus status (c.method ++ " " ++ c.target)), s)
  | none => s.perform group c

end Subscription

end TenantFleet
