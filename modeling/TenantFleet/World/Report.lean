/-
# Worlds as documents

The document of a resource leaves out what only the cloud reports; a report holds that too. The
report of a world has a member for everything in it that there is.
-/
import TenantFleet.World.Basic

namespace TenantFleet

/-! ## Resources -/

/-- A document with members added to its properties, those that are there. -/
def Json.withProperties (x : Json) (extra : List (String × Option Json)) : Json :=
  let added := extra.filterMap fun e => e.2.map fun v => (e.1, v)
  match x with
  | .obj ms =>
    .object (ms.map fun m =>
      match m with
      | ("properties", .obj ps) => ("properties", Json.object (ps ++ added))
      | m => m)
  | x => x

/-- A disk with its provisioning state. -/
def Disk.report (d : Disk) : Json :=
  d.toJson.withProperties [("provisioningState", d.provisioningState.map .str)]

/-- A snapshot with its provisioning state. -/
def Snapshot.report (s : Snapshot) : Json :=
  s.toJson.withProperties [("provisioningState", s.provisioningState.map .str)]

/-- A deployment with its provisioning state. -/
def Deployment.report (d : Deployment) : Json :=
  d.toJson.withProperties [("provisioningState", d.provisioningState.map .str)]

/-- An instance with its provisioning state and whether it has the latest model. -/
def Instance.report (v : Instance) : Json :=
  v.toJson.withProperties [
    ("provisioningState", v.provisioningState.map .str),
    ("latestModelApplied", v.latestModel.map .bool)]

/-! ## Worlds -/

/-- An object of the members that are not empty lists or objects. -/
def Json.nonEmpty (members : List (String × Json)) : Json :=
  .object (members.filter fun m =>
    match m.2 with
    | .arr [] | .obj [] => false
    | _ => true)

/-- The object of a table, each value under its two keys. -/
def Json.ofTable {α : Type} (key : String → String → String) (f : α → Json) (t : Table α) : Json :=
  .object (t.entries.flatMap fun r => r.2.entries.map fun e => (key r.1 e.1, f e.2))

/-- Two keys with a slash between them. -/
def slashed (a b : String) : String := a ++ "/" ++ b

/-- What a subscription holds. -/
def Subscription.report (s : Subscription) : Json :=
  .nonEmpty [
    ("vmss", .ofDict ScaleSet.toJson s.scaleSets),
    ("instances", .object ((s.instances.entries.filter fun e => !e.2.isEmpty).map fun e =>
      (e.1, .arr (e.2.map Instance.report)))),
    ("disks", .ofDict Disk.report s.disks),
    ("snapshots", .ofDict Snapshot.report s.snapshots),
    ("deployments", .ofDict Deployment.report s.deployments),
    ("records", .ofTable (fun zone name => name ++ "." ++ zone) RecordSet.toJson s.records),
    ("peerings", .ofTable slashed Peering.toJson s.peerings),
    ("gateways", .ofTextList s.gateways.keys),
    ("public_ips", .ofTextList s.publicIps.keys),
    ("run_commands", .arr (s.commands.map fun c => .arr [.str c.1, c.2.toJson]))]

/-- The lines of the metrics that hold numbers. -/
def Metrics.samples (m : Metrics) : List String :=
  (m.render.splitOn "\n").filter fun l => !l.isEmpty && !l.startsWith "#"

/-- What a world holds, as the members of a document. -/
def World.report (w : World) : List (String × Json) := [
  ("azure", w.cluster.report),
  ("control_plane", w.controlPlane.report),
  ("nodes_unschedulable", .ofDict (fun n => .bool n.unschedulable) w.nodes),
  ("cordoned", .ofTextList w.cordoned),
  ("deleted_nodes", .ofTextList w.deletedNodes),
  ("drainers", .arr ((Table.all w.drains).map DrainerConfig.toJson)),
  ("deleted_drainers", .ofTextList w.deletedDrains),
  ("cert_configs", .ofTable slashed CertConfig.toJson w.certConfigs),
  ("metrics", .ofTextList w.metrics.samples)]

end TenantFleet
