/-
# One pass over the members of a cluster

Certificates are asked for, then the masters, the disks and the certificates are counted. When
masters or disks are missing the missing disks are made; when everything is there the disks are
attached and the snapshots that have served are deleted.

* `verifyPrerequisites` : whether everything is there;
* `ensureMembers` : the pass.
-/
import TenantFleet.Etcd.Attach

namespace TenantFleet.Etcd

/-! ## What is there -/

/-- Asks for the certificates of members and counts those that are issued. -/
def countCerts (c : AzureConfig) : List EtcdCert → Program Nat
  | [] => return 0
  | cert :: rest => do
    Program.call (.ensureCertConfig (certConfig c cert.name))
    let found ← Program.attempt (.findBundle c.clusterId cert)
    let others ← countCerts c rest
    return (if found.toBool then 1 else 0) + others

/-- Whether a scale set was made with the given version. -/
def hasVersion (version : String) (s : ScaleSet) : Bool :=
  s.tags.get? Tag.operatorVersion = some version

/-- The masters that were made with the given version. -/
def currentMasters (version : String) (l : List Instance) : List Instance :=
  l.filter fun v => v.hasTag Tag.operatorVersion version

/-- Whether every master, disk and certificate is there; missing certificates are asked for and
missing disks are made in the zones of the masters that have no disk. -/
def verifyPrerequisites (c : AzureConfig) (version : String) : Program Bool := do
  let members := memberCount c.masterCount
  let certs ← countCerts c (memberCerts members)
  let scaleSetName := Name.masterScaleSet c.clusterId
  match ← c.group.find? (.getScaleSet scaleSetName) with
  | none => return false
  | some scaleSet =>
    if hasVersion version scaleSet then
      let masters := currentMasters version (← c.group.call (.listInstances scaleSetName))
      let disks := (← c.group.call .listDisks).filter isMemberDisk
      if masters.countP Instance.succeeded = c.masterCount ∧
          disks.countP Disk.succeeded = members then
        return certs = members
      else
        ensureDisks c members (difference (masters.filterMap Instance.zone)
          (disks.filterMap Disk.zone))
        return false
    else return false

/-! ## Snapshots that have served -/

/-- Deletes a snapshot when the disk it was taken from is there again. -/
def cleanSnapshot (c : AzureConfig) (s : Snapshot) : Program Unit :=
  match s.tags.get? Tag.snapshotDisk with
  | none => return ()
  | some disk =>
    if isMemberSnapshot s then do
      match ← c.group.find? (.getDisk disk) with
      | some d =>
        if d.succeeded then
          let _ ← c.group.call (.deleteSnapshot s.name)
        else return ()
      | none => return ()
    else return ()

/-- Deletes the snapshots that have served. -/
def cleanSnapshots (c : AzureConfig) : Program Unit := do
  Program.forEach (← c.group.call .listSnapshots) (cleanSnapshot c)

/-! ## The pass -/

/-- Gives every master a member once everything is there. -/
def ensureMembers (c : AzureConfig) (subscription version : String) : Program Unit := do
  if ← verifyPrerequisites c version then
    attachDisks c subscription
    cleanSnapshots c
  else return ()

end TenantFleet.Etcd
