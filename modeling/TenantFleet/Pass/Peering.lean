/-
# Peering the network of a cluster with the control plane's

Both networks get a peering to the other one. The gateway that was used before is taken apart in
order: its connections, then the gateway, then its public address.

* `ensurePeering` : the peering and one step of taking the gateway apart.
-/
import TenantFleet.Program.Service
import TenantFleet.Settings.Basic
import TenantFleet.Label

namespace TenantFleet.Peering

/-- Deletes the public address of a gateway that has gone. -/
def removeAddress (g : ResourceGroup) (clusterId : String) : Program Unit := do
  let name := Name.vpnGatewayPublicIp clusterId
  match ← g.find? (.getPublicIp name) with
  | some _ =>
    let _ ← g.call (.deletePublicIp name)
  | none => return ()

/-- Deletes a connection. -/
def removeConnection (g : ResourceGroup) (n : GatewayConnection) : Program Unit := do
  let _ ← g.call (.deleteConnection (n.name.getD ""))

/-- Takes the gateway of a cluster apart by one step. -/
def removeGateway (g : ResourceGroup) (clusterId : String) : Program Unit := do
  let name := Name.vpnGateway clusterId
  match ← g.find? (.getGateway name) with
  | none => removeAddress g clusterId
  | some gateway =>
    if gateway.provisioningState = some provisioningDeleting then return ()
    else
      let all ← g.call .listConnections
      match all.filter fun n => n.references (gateway.id.getD "") with
      | [] =>
        let _ ← g.call (.deleteGateway name)
      | connections => Program.forEach connections (removeConnection g)

/-- Peers two networks whose IDs are known. -/
def connect (settings : PassSettings) (c : AzureConfig) (tenantId controlPlaneId : String) :
    Program Unit := do
  let control : ResourceGroup := ⟨.controlPlane, settings.installation⟩
  let _ ← c.group.call (.putPeering (Name.virtualNetwork c.clusterId) settings.installation
    (toRemote settings.installation controlPlaneId))
  let _ ← control.call (.putPeering settings.installation c.clusterId
    (toRemote c.clusterId tenantId))
  removeGateway c.group c.clusterId

/-- Peers the networks of a cluster and of the control plane once both exist. -/
def ensure (settings : PassSettings) (c : AzureConfig) : Program Unit := do
  let control : ResourceGroup := ⟨.controlPlane, settings.installation⟩
  let tenantName := Name.virtualNetwork c.clusterId
  match ← c.group.find? (.getNetwork tenantName) with
  | none => return ()
  | some tenant =>
    match ← control.find? (.getNetwork settings.installation) with
    | none => return ()
    | some plane =>
      match tenant.id, plane.id with
      | some tenantId, some controlPlaneId => connect settings c tenantId controlPlaneId
      | _, _ =>
        Program.fail (.executionFailed (.networksWithoutId tenantName settings.installation))

end TenantFleet.Peering
