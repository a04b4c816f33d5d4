/-
# Addresses of resources

Where the resources of a group are: a path behind the group, and the version of the interface that
is spoken there.
-/

namespace TenantFleet

/-- A resource of a group, or a request to one. -/
structure ResourceAddress where
  /-- The path behind the group. -/
  path : String
  /-- The version of the interface. -/
  version : String
  deriving DecidableEq, Inhabited

namespace ResourceAddress

/-- A part of a resource, or a request to it. -/
def part (a : ResourceAddress) (name : String) : ResourceAddress :=
  { a with path := a.path ++ "/" ++ name }

/-! ## Machines and disks -/

/-- A resource that computes. -/
def compute (path : String) : ResourceAddress := ⟨"Microsoft.Compute/" ++ path, "2019-07-01"⟩

/-- A scale set. -/
def scaleSet (name : String) : ResourceAddress := compute ("virtualMachineScaleSets/" ++ name)

/-- The instances of a scale set. -/
def instances (scaleSetName : String) : ResourceAddress :=
  (scaleSet scaleSetName).part "virtualMachines"

/-- An instance of a scale set. -/
def inst (scaleSetName id : String) : ResourceAddress := (instances scaleSetName).part id

/-- All disks. -/
def disks : ResourceAddress := compute "disks"

/-- A disk. -/
def disk (name : String) : ResourceAddress := disks.part name

/-- All snapshots. -/
def snapshots : ResourceAddress := compute "snapshots"

/-- A snapshot. -/
def snapshot (name : String) : ResourceAddress := snapshots.part name

/-! ## Networks -/

/-- A resource that connects. -/
def network (path : String) : ResourceAddress := ⟨"Microsoft.Network/" ++ path, "2020-05-01"⟩

/-- A network interface of an instance. -/
def interface (scaleSetName id name : String) : ResourceAddress :=
  { ((inst scaleSetName id).part "networkInterfaces").part name with version := "2018-10-01" }

/-- A record of a zone that holds addresses. -/
def record (zone name : String) : ResourceAddress :=
  { network ("dnsZones/" ++ zone ++ "/A/" ++ name) with version := "2018-05-01" }

/-- A virtual network. -/
def virtualNetwork (name : String) : ResourceAddress := network ("virtualNetworks/" ++ name)

/-- A peering of a virtual network. -/
def peering (networkName name : String) : ResourceAddress :=
  ((virtualNetwork networkName).part "virtualNetworkPeerings").part name

/-- A gateway. -/
def gateway (name : String) : ResourceAddress := network ("virtualNetworkGateways/" ++ name)

/-- All connections of gateways. -/
def connections : ResourceAddress := network "connections"

/-- A connection of a gateway. -/
def connection (name : String) : ResourceAddress := connections.part name

/-- A public address. -/
def publicIp (name : String) : ResourceAddress := network ("publicIPAddresses/" ++ name)

/-! ## Templates -/

/-- A deployment of a template. -/
def deployment (name : String) : ResourceAddress :=
  ⟨"Microsoft.Resources/deployments/" ++ name, "2019-10-01"⟩

end ResourceAddress

end TenantFleet
