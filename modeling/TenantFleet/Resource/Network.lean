/-
# Networks and records

Interfaces of instances, virtual networks and the peerings between them, the gateways that peerings
replaced with their connections and addresses, and address records of a name zone.
-/
import TenantFleet.Resource.ScaleSet

namespace TenantFleet

/-! ## Interfaces -/

/-- An address configuration of an interface. -/
structure IpConfiguration where
  /-- The name. -/
  name : Option String := none
  /-- The private address. -/
  privateAddress : Option String := none
  deriving DecidableEq, Inhabited

/-- The network interface of an instance. -/
structure NetworkInterface where
  /-- The resource ID. -/
  id : Option String := none
  /-- The name. -/
  name : Option String := none
  /-- The address configurations. -/
  configurations : List IpConfiguration := []
  deriving DecidableEq, Inhabited

namespace NetworkInterface

/-- The private address under the properties of a configuration. -/
def readAddress : Reader (Option String) := fun x => do
  let ms ← Reader.members ["privateIPAddress"] x
  Reader.optional Reader.text ms "privateIPAddress"

/-- Reads an address configuration. -/
def readConfiguration : Reader IpConfiguration := fun x => do
  let ms ← Reader.members ["name", "properties"] x
  return {
    name := ← Reader.optional Reader.text ms "name"
    privateAddress := ← Reader.defaulted readAddress none ms "properties" }

/-- The configurations under the properties of an interface. -/
def readConfigurations : Reader (List IpConfiguration) := fun x => do
  let ms ← Reader.members ["ipConfigurations"] x
  Reader.defaulted (Reader.list readConfiguration) [] ms "ipConfigurations"

/-- Reads an interface. -/
def read : Reader NetworkInterface := fun x => do
  let ms ← Reader.members ["id", "name", "properties"] x
  return {
    id := ← Reader.optional Reader.text ms "id"
    name := ← Reader.optional Reader.text ms "name"
    configurations := ← Reader.defaulted readConfigurations [] ms "properties" }

/-- The document of an interface. -/
def toJson (n : NetworkInterface) : Json :=
  .record [
    ("id", n.id.map .str),
    ("name", n.name.map .str),
    ("properties", some (.record [("ipConfigurations", some (.arr (n.configurations.map fun c =>
      .record [
        ("name", c.name.map .str),
        ("properties",
          some (.record [("privateIPAddress", c.privateAddress.map .str)]))])))]))]

/-- The private address of the first configuration. -/
def primaryAddress (n : NetworkInterface) : Option String :=
  n.configurations.head?.bind IpConfiguration.privateAddress

end NetworkInterface

/-! ## Networks and peerings -/

/-- A virtual network. -/
structure VirtualNetwork where
  /-- The resource ID. -/
  id : Option String := none
  /-- The name. -/
  name : Option String := none
  /-- The region. -/
  location : String := ""
  deriving DecidableEq, Inhabited

namespace VirtualNetwork

/-- Reads a virtual network. -/
def read : Reader VirtualNetwork := fun x => do
  let ms ← Reader.members ["id", "name", "location"] x
  return {
    id := ← Reader.optional Reader.text ms "id"
    name := ← Reader.optional Reader.text ms "name"
    location := ← Reader.defaulted Reader.text "" ms "location" }

/-- The document of a virtual network. -/
def toJson (n : VirtualNetwork) : Json :=
  .record [
    ("id", n.id.map .str),
    ("name", n.name.map .str),
    ("location", some (.str n.location))]

end VirtualNetwork

/-- What a peering lets through, and the network it leads to. -/
structure PeeringRules where
  /-- Machines of both networks reach each other. -/
  allowAccess : Bool := false
  /-- Traffic that the other network forwards is let in. -/
  allowForwarded : Bool := false
  /-- The other network may use the gateway of this one. -/
  allowTransit : Bool := false
  /-- This network uses the gateway of the other one. -/
  useRemoteGateways : Bool := false
  /-- The ID of the other network. -/
  remote : Option String := none
  deriving DecidableEq, Inhabited

/-- A peering of two virtual networks, as one of them sees it. -/
structure Peering where
  /-- The name. -/
  name : Option String := none
  /-- What the peering lets through. -/
  rules : PeeringRules := {}
  deriving DecidableEq, Inhabited

namespace Peering

/-- Reads the rules of a peering. -/
def readRules : Reader PeeringRules := fun x => do
  let ms ← Reader.members ["allowVirtualNetworkAccess", "allowForwardedTraffic",
    "allowGatewayTransit", "useRemoteGateways", "remoteVirtualNetwork"] x
  return {
    allowAccess := ← Reader.required Reader.bool ms "allowVirtualNetworkAccess"
    allowForwarded := ← Reader.required Reader.bool ms "allowForwardedTraffic"
    allowTransit := ← Reader.required Reader.bool ms "allowGatewayTransit"
    useRemoteGateways := ← Reader.required Reader.bool ms "useRemoteGateways"
    remote := ← Reader.required DataDisk.readReference ms "remoteVirtualNetwork" }

/-- Reads a peering. -/
def read : Reader Peering := fun x => do
  let ms ← Reader.members ["name", "properties"] x
  return {
    name := ← Reader.optional Reader.text ms "name"
    rules := ← Reader.defaulted readRules {} ms "properties" }

/-- The document of a peering. -/
def toJson (p : Peering) : Json :=
  .record [
    ("name", p.name.map .str),
    ("properties", some (.record [
      ("allowVirtualNetworkAccess", some (.bool p.rules.allowAccess)),
      ("allowForwardedTraffic", some (.bool p.rules.allowForwarded)),
      ("allowGatewayTransit", some (.bool p.rules.allowTransit)),
      ("useRemoteGateways", some (.bool p.rules.useRemoteGateways)),
      ("remoteVirtualNetwork", some (DataDisk.referenceJson p.rules.remote))]))]

/-- The plain peering towards a network: access, without forwarding or gateways. -/
def toRemote (name remote : String) : Peering :=
  { name := some name, rules := { allowAccess := true, remote := some remote } }

end Peering

/-! ## Gateways -/

/-- A virtual network gateway. -/
structure Gateway where
  /-- The resource ID. -/
  id : Option String := none
  /-- The name. -/
  name : Option String := none
  /-- The provisioning state. -/
  provisioningState : Option String := none
  deriving DecidableEq, Inhabited

namespace Gateway

/-- The provisioning state under the properties of a gateway. -/
def readState : Reader (Option String) := fun x => do
  let ms ← Reader.members ["provisioningState"] x
  Reader.optional Reader.text ms "provisioningState"

/-- Reads a gateway. -/
def read : Reader Gateway := fun x => do
  let ms ← Reader.members ["id", "name", "properties"] x
  return {
    id := ← Reader.optional Reader.text ms "id"
    name := ← Reader.optional Reader.text ms "name"
    provisioningState := ← Reader.defaulted readState none ms "properties" }

/-- The document of a gateway. -/
def toJson (g : Gateway) : Json :=
  .record [
    ("id", g.id.map .str),
    ("name", g.name.map .str),
    ("properties", some (.record [("provisioningState", g.provisioningState.map .str)]))]

end Gateway

/-- A connection between two gateways. -/
structure GatewayConnection where
  /-- The resource ID. -/
  id : Option String := none
  /-- The name. -/
  name : Option String := none
  /-- The reference to the first gateway. -/
  first : Option (Option String) := none
  /-- The reference to the second gateway. -/
  second : Option (Option String) := none
  deriving DecidableEq, Inhabited

namespace GatewayConnection

/-- The two ends under the properties of a connection. -/
def readEnds : Reader (Option (Option String) × Option (Option String)) := fun x => do
  let ms ← Reader.members ["virtualNetworkGateway1", "virtualNetworkGateway2"] x
  return (← Reader.optional DataDisk.readReference ms "virtualNetworkGateway1",
    ← Reader.optional DataDisk.readReference ms "virtualNetworkGateway2")

/-- Reads a connection. -/
def read : Reader GatewayConnection := fun x => do
  let ms ← Reader.members ["id", "name", "properties"] x
  let id ← Reader.optional Reader.text ms "id"
  let name ← Reader.optional Reader.text ms "name"
  let (first, second) ← Reader.defaulted readEnds (none, none) ms "properties"
  return ⟨id, name, first, second⟩

/-- The document of a connection. -/
def toJson (c : GatewayConnection) : Json :=
  .record [
    ("id", c.id.map .str),
    ("name", c.name.map .str),
    ("properties", some (.record [
      ("virtualNetworkGateway1", c.first.map DataDisk.referenceJson),
      ("virtualNetworkGateway2", c.second.map DataDisk.referenceJson)]))]

/-- Whether two texts are equal up to the case of ASCII letters. -/
def sameIgnoringCase (a b : String) : Bool := a.toList.map Char.toLower = b.toList.map Char.toLower

/-- Whether either end is the gateway of the given ID. -/
def references (c : GatewayConnection) (gatewayId : String) : Bool :=
  [c.first, c.second].any fun e =>
    match e with
    | some (some id) => sameIgnoringCase id gatewayId
    | _ => false

end GatewayConnection

/-- A public address. -/
structure PublicIp where
  /-- The resource ID. -/
  id : Option String := none
  /-- The name. -/
  name : Option String := none
  deriving DecidableEq, Inhabited

namespace PublicIp

/-- Reads a public address. -/
def read : Reader PublicIp := fun x => do
  let ms ← Reader.members ["id", "name"] x
  return {
    id := ← Reader.optional Reader.text ms "id"
    name := ← Reader.optional Reader.text ms "name" }

/-- The document of a public address. -/
def toJson (p : PublicIp) : Json := .record [("id", p.id.map .str), ("name", p.name.map .str)]

end PublicIp

/-! ## Address records -/

/-- The address records of one name. -/
structure RecordSet where
  /-- The name within its zone. -/
  name : Option String := none
  /-- The tag that changes with the record. -/
  etag : Option String := none
  /-- The time to live in seconds. -/
  ttl : Option Int := none
  /-- The addresses. -/
  addresses : List String := []
  deriving DecidableEq, Inhabited

namespace RecordSet

/-- One address. -/
def readAddress : Reader String := fun x => do
  let ms ← Reader.members ["ipv4Address"] x
  Reader.required Reader.text ms "ipv4Address"

/-- The time to live and the addresses. -/
def readProperties : Reader (Option Int × List String) := fun x => do
  let ms ← Reader.members ["TTL", "ARecords"] x
  return (← Reader.optional Reader.int64 ms "TTL",
    ← Reader.defaulted (Reader.list readAddress) [] ms "ARecords")

/-- Reads a record set. -/
def read : Reader RecordSet := fun x => do
  let ms ← Reader.members ["name", "etag", "properties"] x
  let name ← Reader.optional Reader.text ms "name"
  let etag ← Reader.optional Reader.text ms "etag"
  let (ttl, addresses) ← Reader.defaulted readProperties (none, []) ms "properties"
  return ⟨name, etag, ttl, addresses⟩

/-- The document of a record set. -/
def toJson (r : RecordSet) : Json :=
  .record [
    ("name", r.name.map .str),
    ("etag", r.etag.map .str),
    ("properties", some (.record [
      ("TTL", r.ttl.map .int),
      ("ARecords", some (.arr (r.addresses.map fun a =>
        .record [("ipv4Address", some (.str a))])))]))]

/-- The record set of a single address. -/
def ofAddress (name : String) (ttl : Int) (address : String) : RecordSet :=
  { name := some name, ttl := some ttl, addresses := [address] }

end RecordSet

end TenantFleet
