/-
# Passes over whole declarations

A pass over a cluster configuration takes care of the members, the masters and the peering. A pass
over a pool finds the declarations it belongs to and takes care of the workers.
-/
import TenantFleet.Etcd.Pass
import TenantFleet.Masters.Pass
import TenantFleet.Workers.Pass
import TenantFleet.Pass.Peering

namespace TenantFleet

/-! ## Cluster configurations -/

/-- One pass over a cluster configuration; gives the delay in seconds before the next one. -/
def reconcileConfig (settings : PassSettings) (now : Timestamp) (c : AzureConfig) : Program Nat :=
  if c.masterCount = 0 then Program.fail (.invalidConfig (.noMasters c.metadata.key))
  else do
    let subscription ← Program.call (.openAccount c.secret)
    Etcd.ensureMembers c subscription settings.version.text
    let delay ← Masters.ensure settings now c
    if c.vnetPeering then
      Peering.ensure settings c
      return delay
    else return delay

/-! ## Pools -/

/-- The kind of the owner of a pool. -/
def ownerKind : String := MachinePool.kind.kind

/-- The name of the pool that owns a pool in the cloud. -/
def ownerOf (p : AzureMachinePool) : Except Error String :=
  match (p.metadata.owners.getD []).find? (fun o => o.kind = ownerKind) with
  | some o => .ok o.name
  | none =>
    .error (.ownerNotSet
      ("AzureMachinePool " ++ p.metadata.key ++ " has no " ++ ownerKind ++ " owner"))

/-- One pass over a pool; gives the delay in seconds before the next one. -/
def reconcilePool (settings : PassSettings) (now : Timestamp) (p : AzureMachinePool) :
    Program Nat := do
  let owner ← Program.ofExcept (ownerOf p)
  let space := p.metadata.spaceName
  match ← Program.call (.getMachinePool space owner) with
  | none => return settings.wait
  | some machinePool =>
    match ← Program.call (.getAzureConfig space machinePool.clusterName) with
    | none => return settings.wait
    | some config =>
      let _ ← Program.call (.openAccount config.secret)
      Workers.ensure ⟨settings, p, machinePool, .cluster config.secret⟩ now

end TenantFleet
