/-
# Backing up a master from before the time of member disks

A scale set that was made by an older version is drained, its first master stopped, and the disk of
that master copied to a snapshot, before anything new is deployed.
-/
import TenantFleet.Pass.Deployment
import TenantFleet.Etcd.Member
import TenantFleet.Stage.Masters

namespace TenantFleet.Masters

/-! ## What the stages look at -/

/-- The scale set of the masters. -/
def scaleSetOf (c : AzureConfig) : String := Name.masterScaleSet c.clusterId

/-- The masters. -/
def instances (c : AzureConfig) : Program (List Instance) :=
  c.group.call (.listInstances (scaleSetOf c))

/-- The master that every step about a single one is about. -/
def firstInstance (c : AzureConfig) : Program Instance := do
  match ← instances c with
  | v :: _ => return v
  | [] => Program.fail (.executionFailed (.noInstances (scaleSetOf c)))

/-- The member disk that the disk of an old master becomes. -/
def backupDisk : String := Name.memberDisk 1

/-- The snapshot of the disk of an old master, if it was taken. -/
def findBackup (c : AzureConfig) : Program (Option Snapshot) := do
  let snapshots ← c.group.call .listSnapshots
  return snapshots.find? (Etcd.isSnapshotOf backupDisk)

/-- Whether a scale set with the given version tag is older than a version; without a version that
can be read it is. -/
def isOlder (tag : Option String) (version : Version) : Bool :=
  match tag.bind Version.parse? with
  | some v => v.older version
  | none => true

/-! ## Drain requests -/

/-- The version of the contract with the drainer. -/
def drainBundle : String := "0.2.0"

/-- The request to drain a node. -/
def drainRequest (c : AzureConfig) (n : Node) : DrainerConfig :=
  { metadata := {
      name := some n.name
      space := some c.clusterId
      labels := some (Dict.empty.insert Label.cluster c.clusterId) }
    clusterId := c.clusterId
    apiEndpoint := some ("api." ++ c.dnsZone)
    nodeName := n.name
    versionBundle := some drainBundle }

/-- Asks for a node to be drained, unless that was done before. -/
def requestDrain (c : AzureConfig) (n : Node) : Program Unit :=
  .ask (.createDrain (drainRequest c n)) fun
    | .ok _ => .done (.ok ())
    | .error e => if e.isAlreadyExists then .done (.ok ()) else .done (.error (.tenant e))

/-- Withdraws a drain request that may have gone. -/
def withdrawDrain (c : AzureConfig) (d : DrainerConfig) : Program Unit :=
  .ask (.deleteDrain c.clusterId d.metadata.anyName) Tenant.unlessMissing

/-! ## Stages -/

/-- Decides whether the masters are backed up first. -/
def begin (settings : PassSettings) (c : AzureConfig) : Program (Transition MastersStage) := do
  match ← c.group.find? (.getScaleSet (scaleSetOf c)) with
  | none => return .advance .deploymentUninitialized
  | some s =>
    if isOlder (s.tags.get? Tag.operatorVersion) settings.version then
      return .advance .backupEtcdDisk
    else return .advance .deploymentUninitialized

/-- Asks for all master nodes to be drained. -/
def requestDrains (settings : PassSettings) (c : AzureConfig) :
    Program (Transition MastersStage) := do
  match ← Tenant.open? c.metadata.spaceName c.clusterId with
  | none => return .wait .backupEtcdDisk settings.wait
  | some tenant =>
    Program.forEach (← tenant.nodes Name.masterSelector) (requestDrain c)
    return .advance .waitForMastersToDrain

/-- Waits for the drain requests to finish and withdraws them. -/
def awaitDrains (settings : PassSettings) (c : AzureConfig) :
    Program (Transition MastersStage) := do
  let requests ← Program.call (.listDrains c.clusterId c.clusterId)
  if requests.all DrainerConfig.finished then
    Program.forEach requests (withdrawDrain c)
    return .advance .stopMasters
  else return .wait .waitForMastersToDrain settings.wait

/-- Stops the first master. -/
def stop (settings : PassSettings) (c : AzureConfig) : Program (Transition MastersStage) := do
  let v ← firstInstance c
  let view ← c.group.call (.instanceView (scaleSetOf c) v.instanceId)
  if view.deallocated then return .advance .ensureSnapshot
  else
    let _ ← c.group.call (.deallocate (scaleSetOf c) v.instanceId)
    return .wait .stopMasters settings.wait

/-- The ID of the managed disk at the first unit of a master. -/
def diskOf (c : AzureConfig) (v : Instance) : Program String :=
  match (v.diskAt Etcd.diskUnit).bind (fun d => d.managedDisk.join) with
  | some id => return id
  | none => Program.fail (.executionFailed (.noDisk v.instanceId (scaleSetOf c)))

/-- Copies the disk of the first master to a snapshot and waits for it. -/
def backUp (settings : PassSettings) (c : AzureConfig) : Program (Transition MastersStage) := do
  match ← findBackup c with
  | some s =>
    if s.succeeded then return .advance .deploymentUninitialized
    else return .wait .ensureSnapshot settings.wait
  | none =>
    let v ← firstInstance c
    let source ← diskOf c v
    let _ ← c.group.call (.putSnapshot (Name.snapshotOf backupDisk)
      (Etcd.snapshot v.location (some source) backupDisk))
    return .wait .ensureSnapshot settings.wait

end TenantFleet.Masters
