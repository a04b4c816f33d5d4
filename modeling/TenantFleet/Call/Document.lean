/-
# Requests and answers as documents

A request to a subscription can be named by its method and a list of documents, and its answer be
shown as one.
-/
import TenantFleet.World.Report

namespace TenantFleet.CloudCall

/-- The request of the given method with the given arguments. -/
def ofMethod? (method : String) (args : List Json) : Option CloudCall :=
  let ids : Reader (List String) := Reader.list Reader.text
  match method, args with
  | "get_vmss", [.str n] => some (.getScaleSet n)
  | "create_or_update_vmss", [.str n, v] => (ScaleSet.read v).map (.putScaleSet n)
  | "update_vmss_instances", [.str n, l] => (ids l).map (.updateInstances n)
  | "delete_vmss_instances", [.str n, l] => (ids l).map (.deleteInstances n)
  | "list_vmss_vms", [.str n] => some (.listInstances n)
  | "get_vmss_vm_instance_view", [.str n, .str i] => some (.instanceView n i)
  | "update_vmss_vm", [.str n, .str i, v] => (Instance.read v).map (.putInstance n i)
  | "start_vmss_vm", [.str n, .str i] => some (.start n i)
  | "deallocate_vmss_vm", [.str n, .str i] => some (.deallocate n i)
  | "reimage_vmss_vm", [.str n, .str i] => some (.reimage n i)
  | "run_command", [.str n, .str i, v] => (RunCommand.read v).map (.runCommand n i)
  | "get_disk", [.str n] => some (.getDisk n)
  | "list_disks", [] => some .listDisks
  | "create_or_update_disk", [.str n, v] => (Disk.read v).map (.putDisk n)
  | "delete_disk", [.str n] => some (.deleteDisk n)
  | "list_snapshots", [] => some .listSnapshots
  | "create_or_update_snapshot", [.str n, v] => (Snapshot.read v).map (.putSnapshot n)
  | "delete_snapshot", [.str n] => some (.deleteSnapshot n)
  | "get_a_record_set", [.str zone, .str n] => some (.getRecord zone n)
  | "create_or_update_a_record_set", [.str zone, .str n, v] =>
    (RecordSet.read v).map (.putRecord zone n)
  | "get_vmss_network_interface", [.str n, .str i, .str nic] => some (.getInterface n i nic)
  | "get_virtual_network", [.str n] => some (.getNetwork n)
  | "create_or_update_vnet_peering", [.str net, .str n, v] =>
    (Peering.read v).map (.putPeering net n)
  | "get_virtual_network_gateway", [.str n] => some (.getGateway n)
  | "delete_virtual_network_gateway", [.str n] => some (.deleteGateway n)
  | "list_gateway_connections", [] => some .listConnections
  | "delete_gateway_connection", [.str n] => some (.deleteConnection n)
  | "get_public_ip", [.str n] => some (.getPublicIp n)
  | "delete_public_ip", [.str n] => some (.deletePublicIp n)
  | "get_deployment", [.str n] => some (.getDeployment n)
  | "create_or_update_deployment", [.str n, v] => (Deployment.read v).map (.putDeployment n)
  | _, _ => none

/-- The document of what was read or stored; an operation has none. -/
def answerJson? : (c : CloudCall) → c.Answer → Option Json
  | .wait _, () => some .null
  | .getScaleSet _, v => some v.toJson
  | .listInstances _, l => some (.arr (l.map Instance.report))
  | .instanceView _ _, v => some v.toJson
  | .getDisk _, v => some v.report
  | .listDisks, l => some (.arr (l.map Disk.report))
  | .listSnapshots, l => some (.arr (l.map Snapshot.report))
  | .getRecord _ _, v | .putRecord _ _ _, v => some v.toJson
  | .getInterface _ _ _, v => some v.toJson
  | .getNetwork _, v => some v.toJson
  | .getGateway _, v => some v.toJson
  | .listConnections, l => some (.arr (l.map GatewayConnection.toJson))
  | .getPublicIp _, v => some v.toJson
  | .getDeployment _, v => some v.report
  | .putScaleSet _ _, _ | .updateInstances _ _, _ | .deleteInstances _ _, _ | .putInstance _ _ _, _
  | .start _ _, _ | .deallocate _ _, _ | .reimage _ _, _ | .runCommand _ _ _, _ | .putDisk _ _, _
  | .deleteDisk _, _ | .putSnapshot _ _, _ | .deleteSnapshot _, _ | .putPeering _ _ _, _
  | .deleteGateway _, _ | .deleteConnection _, _ | .deletePublicIp _, _ |
    .putDeployment _ _, _ => none

/-- The operation that a change was answered with. -/
def operation? : (c : CloudCall) → c.Answer → Option Operation
  | .putScaleSet _ _, o | .updateInstances _ _, o | .deleteInstances _ _, o | .putInstance _ _ _, o
  | .start _ _, o | .deallocate _ _, o | .reimage _ _, o | .runCommand _ _ _, o | .putDisk _ _, o
  | .deleteDisk _, o | .putSnapshot _ _, o | .deleteSnapshot _, o | .putPeering _ _ _, o
  | .deleteGateway _, o | .deleteConnection _, o | .deletePublicIp _, o | .putDeployment _ _, o =>
    some o
  | .wait _, _ | .getScaleSet _, _ | .listInstances _, _ | .instanceView _ _, _ | .getDisk _, _
  | .listDisks, _ | .listSnapshots, _ | .getRecord _ _, _ | .putRecord _ _ _, _
  | .getInterface _ _ _, _ | .getNetwork _, _ | .getGateway _, _ | .listConnections, _
  | .getPublicIp _, _ | .getDeployment _, _ => none

end TenantFleet.CloudCall
