/-
# Giving masters their member disks

The ready masters are taken in the order they are listed. One that has no disk at the first unit
gets a free disk; one that has a disk, or just got it, is told to start the member of that name: its
address record is written, its certificate found and its environment put on the machine.

* `attachDisks` : all masters of a cluster, until the first failure.
-/
import TenantFleet.Etcd.Disks

namespace TenantFleet.Etcd

/-! ## Starting a member -/

/-- The private address of a master. -/
def masterAddress (c : AzureConfig) (inst : String) : Program String := do
  let interface ← c.group.call
    (.getInterface (Name.masterScaleSet c.clusterId) inst (Name.masterInterface c.clusterId))
  match interface.primaryAddress with
  | some address => return address
  | none => Program.fail (.executionFailed .noAddress)

/-- Points the record of a member to an address; other fields of an existing record stay. -/
def ensureRecord (c : AzureConfig) (member address : String) : Program Unit := do
  let fresh := RecordSet.ofAddress member recordTtl address
  let found ← c.group.find? (.getRecord c.dnsZone member)
  let _ ← c.group.call
    (.putRecord c.dnsZone member { found.getD fresh with addresses := fresh.addresses })

/-- The certificate slot of a member. -/
def certOf (member : String) : Program EtcdCert :=
  match EtcdCert.ofName? member with
  | some cert => return cert
  | none => Program.fail (.tenant (.certUnavailable (.unknownMember member)))

/-- Starts a member on a master, and gives the entries with that of the member added. -/
def startMember (c : AzureConfig) (inst member : String) (entries : List String) :
    Program (List String) := do
  let address ← masterAddress c inst
  ensureRecord c member address
  let cert ← certOf member
  let tls ← findBundle c.clusterId cert
  let entries := entries ++ [memberEntry c member]
  let _ ← c.group.call (.runCommand (Name.masterScaleSet c.clusterId) inst
    (writeEnvironment (environment member (memberUrl c member) entries tls)))
  return entries

/-! ## Attaching disks -/

/-- The name of the disk at the first unit; empty if there is none or it has no name. -/
def memberOf (v : Instance) : String := ((v.diskAt diskUnit).bind DataDisk.name).getD ""

/-- Gives a free disk to a master; the name is empty if there is none yet. -/
def attachDisk (c : AzureConfig) (subscription : String) (v : Instance) : Program String := do
  let disk ← findAvailableDisk c (v.zone.getD "")
  if disk.isEmpty then return ""
  else
    let id := diskId subscription c.clusterId disk
    let _ ← c.group.call (.putInstance (Name.masterScaleSet c.clusterId) v.instanceId
      (v.attach diskUnit disk id))
    return disk

/-- The member of a master, which gets a disk if it has none. -/
def ensureMember (c : AzureConfig) (subscription : String) (v : Instance) : Program String :=
  if (memberOf v).isEmpty then attachDisk c subscription v else return memberOf v

/-- Gives the masters of a list their disks and starts their members. -/
def attachAll (c : AzureConfig) (subscription : String) :
    List String → List Instance → Program Unit
  | _, [] => return ()
  | entries, v :: rest =>
    if v.succeeded then do
      let member ← ensureMember c subscription v
      if member.isEmpty then attachAll c subscription entries rest
      else
        let entries ← startMember c v.instanceId member entries
        attachAll c subscription entries rest
    else attachAll c subscription entries rest

/-- Gives the masters of a cluster their disks and starts their members. -/
def attachDisks (c : AzureConfig) (subscription : String) : Program Unit := do
  match ← c.group.find? (.listInstances (Name.masterScaleSet c.clusterId)) with
  | some instances => attachAll c subscription [] instances
  | none => return ()

end TenantFleet.Etcd
