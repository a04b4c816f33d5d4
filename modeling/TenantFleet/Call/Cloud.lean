/-
# Requests to the cloud

What a pass can ask of a subscription: to read, write and delete resources of a resource group, and
to wait for the end of an operation. Each request has a type of answers.
-/
import TenantFleet.Error
import TenantFleet.Resource.Network
import TenantFleet.Resource.Deployment

namespace TenantFleet

/-- A request to a subscription about the resources of a group. -/
inductive CloudCall
  | wait (operation : Operation)
  | getScaleSet (name : String)
  | putScaleSet (name : String) (value : ScaleSet)
  | updateInstances (scaleSet : String) (ids : List String)
  | deleteInstances (scaleSet : String) (ids : List String)
  | listInstances (scaleSet : String)
  | instanceView (scaleSet inst : String)
  | putInstance (scaleSet inst : String) (value : Instance)
  | start (scaleSet inst : String)
  | deallocate (scaleSet inst : String)
  | reimage (scaleSet inst : String)
  | runCommand (scaleSet inst : String) (command : RunCommand)
  | getDisk (name : String)
  | listDisks
  | putDisk (name : String) (value : Disk)
  | deleteDisk (name : String)
  | listSnapshots
  | putSnapshot (name : String) (value : Snapshot)
  | deleteSnapshot (name : String)
  | getRecord (zone name : String)
  | putRecord (zone name : String) (value : RecordSet)
  | getInterface (scaleSet inst name : String)
  | getNetwork (name : String)
  | putPeering (network name : String) (value : Peering)
  | getGateway (name : String)
  | deleteGateway (name : String)
  | listConnections
  | deleteConnection (name : String)
  | getPublicIp (name : String)
  | deletePublicIp (name : String)
  | getDeployment (name : String)
  | putDeployment (name : String) (value : Deployment)
  deriving DecidableEq, Inhabited

namespace CloudCall

/-- What a request is answered with when it succeeds. -/
@[reducible] def Answer : CloudCall → Type
  | wait _ => Unit
  | getScaleSet _ => ScaleSet
  | listInstances _ => List Instance
  | instanceView _ _ => InstanceView
  | getDisk _ => Disk
  | listDisks => List Disk
  | listSnapshots => List Snapshot
  | getRecord _ _ => RecordSet
  | putRecord _ _ _ => RecordSet
  | getInterface _ _ _ => NetworkInterface
  | getNetwork _ => VirtualNetwork
  | getGateway _ => Gateway
  | listConnections => List GatewayConnection
  | getPublicIp _ => PublicIp
  | getDeployment _ => Deployment
  | putScaleSet _ _ | updateInstances _ _ | deleteInstances _ _ | putInstance _ _ _ | start _ _
  | deallocate _ _ | reimage _ _ | runCommand _ _ _ | putDisk _ _ | deleteDisk _
  | putSnapshot _ _ | deleteSnapshot _ | putPeering _ _ _ | deleteGateway _ | deleteConnection _
  | deletePublicIp _ | putDeployment _ _ => Operation

/-- The name of the kind of request. -/
def method : CloudCall → String
  | wait _ => "wait"
  | getScaleSet _ => "get_vmss"
  | putScaleSet _ _ => "create_or_update_vmss"
  | updateInstances _ _ => "update_vmss_instances"
  | deleteInstances _ _ => "delete_vmss_instances"
  | listInstances _ => "list_vmss_vms"
  | instanceView _ _ => "get_vmss_vm_instance_view"
  | putInstance _ _ _ => "update_vmss_vm"
  | start _ _ => "start_vmss_vm"
  | deallocate _ _ => "deallocate_vmss_vm"
  | reimage _ _ => "reimage_vmss_vm"
  | runCommand _ _ _ => "run_command"
  | getDisk _ => "get_disk"
  | listDisks => "list_disks"
  | putDisk _ _ => "create_or_update_disk"
  | deleteDisk _ => "delete_disk"
  | listSnapshots => "list_snapshots"
  | putSnapshot _ _ => "create_or_update_snapshot"
  | deleteSnapshot _ => "delete_snapshot"
  | getRecord _ _ => "get_a_record_set"
  | putRecord _ _ _ => "create_or_update_a_record_set"
  | getInterface _ _ _ => "get_vmss_network_interface"
  | getNetwork _ => "get_virtual_network"
  | putPeering _ _ _ => "create_or_update_vnet_peering"
  | getGateway _ => "get_virtual_network_gateway"
  | deleteGateway _ => "delete_virtual_network_gateway"
  | listConnections => "list_gateway_connections"
  | deleteConnection _ => "delete_gateway_connection"
  | getPublicIp _ => "get_public_ip"
  | deletePublicIp _ => "delete_public_ip"
  | getDeployment _ => "get_deployment"
  | putDeployment _ _ => "create_or_update_deployment"

/-- The name of what the request is about. -/
def target : CloudCall → String
  | wait operation => operation.description
  | getScaleSet name | putScaleSet name _ | listInstances name | getDisk name | putDisk name _
  | deleteDisk name | putSnapshot name _ | deleteSnapshot name | getNetwork name
  | getGateway name | deleteGateway name | deleteConnection name | getPublicIp name
  | deletePublicIp name | getDeployment name | putDeployment name _ => name
  | updateInstances scaleSet ids | deleteInstances scaleSet ids =>
    scaleSet ++ "/" ++ ",".intercalate ids
  | instanceView scaleSet inst | putInstance scaleSet inst _ | start scaleSet inst
  | deallocate scaleSet inst | reimage scaleSet inst | runCommand scaleSet inst _ =>
    scaleSet ++ "/" ++ inst
  | listDisks | listSnapshots | listConnections => ""
  | getRecord zone name | putRecord zone name _ => name ++ "." ++ zone
  | getInterface scaleSet inst name => scaleSet ++ "/" ++ inst ++ "/" ++ name
  | putPeering network name _ => network ++ "/" ++ name

end CloudCall

end TenantFleet
