/-
# Members and their disks

Each member keeps its data on a managed disk of its own name, at the first logical unit of one
master. This module says how many members a cluster has, what is asked for each of them, and what a
master is told when it takes up a member.

* `memberCount` : an odd number, at most three;
* `difference` : the zones that have no disk yet.
-/
import TenantFleet.Label
import TenantFleet.Resource.ScaleSet
import TenantFleet.Object.AzureConfig
import TenantFleet.Object.CertConfig
import TenantFleet.Text.Base64

namespace TenantFleet.Etcd

/-! ## Members -/

/-- The most members a cluster has. -/
def maxMembers : Nat := 3

/-- The number of members of a cluster with the given number of masters: odd, so that votes are
decided, and at most three. -/
def memberCount (masters : Nat) : Nat :=
  min (if masters % 2 = 0 then masters - 1 else masters) maxMembers

/-- The names of the disks of the first members. -/
def memberDisks (count : Nat) : List String := (List.range count).map fun i =>
    Name.memberDisk (i + 1)

/-- The certificates of the first members. -/
def memberCerts (count : Nat) : List EtcdCert := [EtcdCert.etcd1, .etcd2, .etcd3].take count

/-- A cluster with masters has an odd number of members. -/
theorem memberCount_odd {masters : Nat} (h : 0 < masters) : memberCount masters % 2 = 1 := by
  unfold memberCount maxMembers
  split <;> omega

/-- A cluster has no more members than masters, and at most three. -/
theorem memberCount_le (masters : Nat) : memberCount masters ≤ min masters maxMembers := by
  unfold memberCount
  split <;> omega

@[simp] theorem length_memberDisks (count : Nat) : (memberDisks count).length = count := by
  simp [memberDisks]

/-! ## Zones -/

/-- The list without the item at a place, which the last item takes. -/
def swapRemove (l : List String) (i : Nat) : List String :=
  match l.getLast? with
  | some last => (l.set i last).dropLast
  | none => []

/-- The items of `a` that are left when each item of `b` takes away the first one equal to it. An
item that is taken away uses up one of `b`, whose others do not keep their order. -/
def difference (a b : List String) : List String :=
  match a with
  | [] => []
  | x :: rest =>
    match b.idxOf? x with
    | some i => difference rest (swapRemove b i)
    | none => x :: difference rest b

/-- Nothing takes nothing away. -/
@[simp] theorem difference_nil (a : List String) : difference a [] = a := by
  induction a with
  | nil => rfl
  | cons x rest ih => simp [difference, ih]

/-! ## Disks and snapshots -/

/-- The logical unit of a member's disk. -/
def diskUnit : Int := 0

/-- The size of a new disk in GiB. -/
def diskSizeGB : Int := 100

/-- The tags of a member's disk. -/
def roleTags : Dict String := Dict.empty.insert Tag.diskRole Tag.etcdRole

/-- Whether a disk is a member's. -/
def isMemberDisk (d : Disk) : Bool := d.hasTag Tag.diskRole Tag.etcdRole

/-- Whether a snapshot was taken from a member's disk. -/
def isMemberSnapshot (s : Snapshot) : Bool := s.hasTag Tag.diskRole Tag.etcdRole

/-- Whether a snapshot was taken from the given disk. -/
def isSnapshotOf (disk : String) (s : Snapshot) : Bool :=
  isMemberSnapshot s && s.hasTag Tag.snapshotDisk disk

/-- A full copy of a disk, taken from the resource of the given ID. -/
def snapshot (location : String) (source : Option String) (disk : String) : Snapshot :=
  { location := location
    tags := roleTags.insert Tag.snapshotDisk disk
    creation := ⟨.copy, source⟩
    incremental := some false }

/-! ## Certificates -/

/-- The validity of a member's certificate. -/
def certificateTtl : String := "4320h"

/-- The version of the contract with the issuer. -/
def certificateBundle : String := "0.1.0"

/-- The address a member may always be reached at. -/
def loopback : String := "127.0.0.1"

/-- The request for the certificate of a member. -/
def certConfig (c : AzureConfig) (member : String) : CertConfig :=
  let labels := Dict.ofList [
    (Label.certificate, member),
    (Label.cluster, c.clusterId),
    (Label.managedBy, Label.operatorName)]
  { metadata := {
      name := some (c.clusterId ++ "-" ++ member)
      space := some certificateNamespace
      labels := some (match c.organization with
        | some o => labels.insert Label.organization o
        | none => labels) }
    allowBareDomains := true
    altNames := [member ++ "." ++ c.dnsZone]
    component := member
    clusterId := c.clusterId
    commonName := c.etcdDomain
    ipSans := [loopback]
    ttl := certificateTtl
    bundleVersion := certificateBundle }

/-! ## Starting a member -/

/-- The time to live of a member's address record in seconds. -/
def recordTtl : Int := 60

/-- The channel members talk to each other on. -/
def peerChannel : Nat := 2380

/-- Where a master finds the environment of its member. -/
def environmentFile : String := "/etc/etcd-bootstrap-env"

/-- The kind of command that runs a script. -/
def shellCommand : String := "RunShellScript"

/-- The address of a member for the other members. -/
def memberUrl (c : AzureConfig) (member : String) : String :=
  "https://" ++ member ++ "." ++ c.dnsZone ++ ":" ++ toString peerChannel

/-- A member that was started in this pass: its name and its address. -/
def memberEntry (c : AzureConfig) (member : String) : String := member ++ "=" ++ memberUrl c member

/-- The environment of a member. The entries are those of the members started so far in this pass,
this one included; the first one starts a new cluster and the others join it. -/
def environment (member url : String) (entries : List String) (tls : Tls) :
    List (String × String) := [
  ("ETCD_NAME", member),
  ("ETCD_PEER_URL", url),
  ("ETCD_INITIAL_CLUSTER", ",".intercalate entries),
  ("ETCD_INITIAL_CLUSTER_STATE", if entries.length = 1 then "new" else "existing"),
  ("ETCD_PEER_CA_PATH", "/var/lib/etcd/ssl/peer-ca.pem"),
  ("ETCD_PEER_CERT_PATH", "/var/lib/etcd/ssl/peer-crt.pem"),
  ("ETCD_PEER_KEY_PATH", "/var/lib/etcd/ssl/peer-key.pem"),
  ("ETCD_PEER_CA", Base64.encode tls.ca),
  ("ETCD_PEER_CRT", Base64.encode tls.crt),
  ("ETCD_PEER_KEY", Base64.encode tls.key)]

/-- The command that writes an environment to its file. -/
def writeEnvironment (vars : List (String × String)) : RunCommand :=
  { commandId := shellCommand
    script := ["echo -e '" ++ "\\n".intercalate (vars.map fun v => v.1 ++ "=" ++ v.2) ++
      "' | sudo tee " ++ environmentFile] }

end TenantFleet.Etcd
