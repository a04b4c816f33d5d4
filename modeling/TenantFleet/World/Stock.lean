/-
# Filling a world

How resources, objects and bundles come into a world without a request.
-/
import TenantFleet.World.Basic

namespace TenantFleet

/-! ## Resources -/

namespace Subscription

/-- Adds an instance behind those of a scale set. -/
def addInstance (s : Subscription) (scaleSet : String) (v : Instance) : Subscription :=
  { s with instances := s.instances.insert scaleSet (s.instancesOf scaleSet ++ [v]) }

/-- Gives the interface of an instance an address. -/
def setAddress (s : Subscription) (scaleSet inst address : String) : Subscription :=
  let n : NetworkInterface := { configurations := [⟨some "ipconfig1", some address⟩] }
  { s with interfaces := Table.put s.interfaces scaleSet inst n }

/-- Sets what an instance reports at run time. -/
def setView (s : Subscription) (scaleSet inst : String) (v : InstanceView) : Subscription :=
  { s with views := Table.put s.views scaleSet inst v }

/-- Adds a disk. -/
def addDisk (s : Subscription) (d : Disk) : Subscription :=
  { s with disks := s.disks.insert d.name d }

/-- Adds a snapshot. -/
def addSnapshot (s : Subscription) (d : Snapshot) : Subscription :=
  { s with snapshots := s.snapshots.insert d.name d }

/-- Adds a network. -/
def addNetwork (s : Subscription) (n : VirtualNetwork) : Subscription :=
  { s with networks := s.networks.insert (n.name.getD "") n }

/-- Adds a gateway. -/
def addGateway (s : Subscription) (g : Gateway) : Subscription :=
  { s with gateways := s.gateways.insert (g.name.getD "") g }

/-- Adds a connection of gateways. -/
def addConnection (s : Subscription) (c : GatewayConnection) : Subscription :=
  { s with connections := s.connections.insert (c.name.getD "") c }

/-- Adds a public address. -/
def addPublicIp (s : Subscription) (p : PublicIp) : Subscription :=
  { s with publicIps := s.publicIps.insert (p.name.getD "") p }

/-- Sets the provisioning state of a deployment, if it exists. -/
def setDeploymentState (s : Subscription) (name state : String) : Subscription :=
  { s with deployments := s.deployments.modify name fun d =>
    { d with provisioningState := some state } }

end Subscription

/-! ## Objects and bundles -/

namespace World

/-- Adds a node of the tenant cluster. -/
def addNode (w : World) (n : Node) : World := { w with nodes := w.nodes.insert n.name n }

/-- Adds a drain request. -/
def addDrain (w : World) (d : DrainerConfig) : World :=
  { w with drains := Table.put w.drains d.metadata.spaceName (d.metadata.name.getD "") d }

/-- Adds the bundle of a member. -/
def addBundle (w : World) (clusterId : String) (cert : EtcdCert) (t : Tls) : World :=
  { w with bundles := Table.put w.bundles clusterId cert.name t }

/-- Adds a pool. -/
def addMachinePool (w : World) (p : MachinePool) : World :=
  { w with machinePools := Table.put w.machinePools p.metadata.spaceName p.metadata.anyName p }

/-- Adds a cluster. -/
def addCluster (w : World) (c : Cluster) : World :=
  { w with clusters := Table.put w.clusters c.metadata.spaceName c.metadata.anyName c }

/-- Adds a cluster configuration. -/
def addConfig (w : World) (c : AzureConfig) : World :=
  { w with configs := Table.put w.configs c.metadata.spaceName c.metadata.anyName c }

end World

end TenantFleet
