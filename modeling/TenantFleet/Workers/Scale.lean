/-
# Replacing the workers of a pool

The scale set is doubled while the autoscaler looks away, the old workers are closed for new work
once as many new ones have joined, and removed when the new ones are ready.
-/
import TenantFleet.Pass.Deployment
import TenantFleet.Workers.Partition
import TenantFleet.Stage.Workers

namespace TenantFleet.Workers

/-! ## What the stages look at -/

/-- What a pass over a pool works on. -/
structure Scope where
  /-- What the pass needs to know. -/
  settings : PassSettings
  /-- The pool in the cloud. -/
  pool : AzureMachinePool
  /-- The pool. -/
  machinePool : MachinePool
  /-- The subscription of the cluster. -/
  account : Account
  deriving Inhabited

namespace Scope

/-- The namespace of the declarations. -/
def space (x : Scope) : String := x.pool.metadata.spaceName

/-- The name of the pool. -/
def poolName (x : Scope) : String := x.pool.metadata.anyName

/-- The ID of the cluster. -/
def clusterId (x : Scope) : String := x.machinePool.clusterName

/-- The resource group of the cluster. -/
def group (x : Scope) : ResourceGroup := ⟨x.account, x.clusterId⟩

/-- The name of the scale set and of the deployment. -/
def scaleSet (x : Scope) : String := Name.poolScaleSet x.poolName

/-- Stays in a stage. -/
def stay (x : Scope) (stage : WorkersStage) : Transition WorkersStage := .wait stage x.settings.wait

end Scope

/-- The tenant cluster, unless its declaration has gone or is going, or it cannot be reached. -/
def usableTenant? (x : Scope) : Program (Option Tenant) := do
  match ← Program.call (.getCluster x.space x.clusterId) with
  | none => return none
  | some cluster =>
    if cluster.metadata.deleting then return none else Tenant.open? x.space x.clusterId

/-- The scale set and the workers. -/
def survey (x : Scope) (tenant : Tenant) : Program (ScaleSet × Partition) := do
  let scaleSet ← x.group.call (.getScaleSet x.scaleSet)
  let instances ← x.group.call (.listInstances x.scaleSet)
  let nodes ← tenant.nodes (Name.poolSelector x.poolName)
  return (scaleSet,
    Partition.of x.scaleSet scaleSet.skuName instances nodes x.settings.version)

/-! ## Changing the capacity -/

/-- A scale set with another capacity, open or closed for the autoscaler. -/
def resize (s : ScaleSet) (capacity : Int) (autoscaler : Bool) : ScaleSet :=
  { s with
    sku := some { s.sku.getD {} with capacity := some capacity }
    tags := s.tags.insert Tag.autoscalerEnabled (if autoscaler then "true" else "false") }

/-- Changes the capacity of the scale set and waits for the end of it. -/
def rescale (x : Scope) (s : ScaleSet) (capacity : Int) (autoscaler : Bool) : Program Unit := do
  x.group.wait (← x.group.call (.putScaleSet x.scaleSet (resize s capacity autoscaler)))

/-! ## Stages -/

/-- Whether all instances of a list are ready and running; the first one that is not ends the
search. -/
def allRunning (x : Scope) : List Instance → Program Bool
  | [] => return true
  | v :: rest =>
    if v.succeeded then do
      let view ← x.group.call (.instanceView x.scaleSet v.instanceId)
      if view.running then allRunning x rest else return false
    else return false

/-- Doubles the scale set in relation to the old workers, once everything deployed is there. -/
def scaleUp (x : Scope) (s : HandlerState) : Program (Outcome WorkersStage) := do
  let stay : Outcome WorkersStage := ⟨x.stay .scaleUp, s⟩
  if x.machinePool.metadata.deleting then return stay
  else if ← allRunning x (← x.group.call (.listInstances x.scaleSet)) then
    match ← observeDeployment x.group x.scaleSet with
    | .failed | .missing => return .advance .deploymentUninitialized s.clearChecksums
    | .running => return stay
    | .succeeded =>
      match ← usableTenant? x with
      | none => return stay
      | some tenant =>
        let (scaleSet, workers) ← survey x tenant
        let desired : Int := workers.old.length * 2
        if desired > scaleSet.capacity then
          rescale x scaleSet desired false
          return stay
        else return .advance .cordonOldWorkers s
  else return stay

/-- Closes an old worker for new work, unless that was done before. -/
def cordonWorker (tenant : Tenant) (w : Worker) : Program Unit :=
  if w.node.unschedulable then return () else tenant.cordon w.nodeName

/-- Closes the old workers for new work once as many new ones have joined. -/
def cordonOld (x : Scope) : Program (Transition WorkersStage) := do
  match ← usableTenant? x with
  | none => return x.stay .cordonOldWorkers
  | some tenant =>
    let (_, workers) ← survey x tenant
    if workers.new.length < workers.old.length then return x.stay .cordonOldWorkers
    else
      Program.forEach workers.old (cordonWorker tenant)
      return .advance .waitForWorkersToBecomeReady

/-- Waits for the new workers to be ready, and as many as there are old ones. -/
def awaitReady (x : Scope) : Program (Transition WorkersStage) := do
  match ← usableTenant? x with
  | none => return x.stay .waitForWorkersToBecomeReady
  | some tenant =>
    let (_, workers) ← survey x tenant
    if workers.new.all (fun w => w.node.ready) ∧ workers.old.length ≤ workers.new.length then
      return .advance .scaleDown
    else return x.stay .waitForWorkersToBecomeReady

/-- Removes the node of an old worker. -/
def removeWorker (x : Scope) (tenant : Tenant) (w : Worker) : Program Unit := do
  tenant.removeNode w.nodeName
  Program.report (.termination x.clusterId w.nodeName w.inst.instanceId)

/-- Deletes instances and waits for the end of it. -/
def deleteInstances (x : Scope) (ids : List String) : Program Unit :=
  if ids.isEmpty then return ()
  else do x.group.wait (← x.group.call (.deleteInstances x.scaleSet ids))

/-- Removes the old workers and gives the scale set back to the autoscaler. -/
def scaleDown (x : Scope) : Program (Transition WorkersStage) := do
  match ← usableTenant? x with
  | none => return x.stay .scaleDown
  | some tenant =>
    let (_, workers) ← survey x tenant
    Program.forEach workers.old (removeWorker x tenant)
    deleteInstances x (workers.old.map fun w => w.inst.instanceId)
    let scaleSet ← x.group.call (.getScaleSet x.scaleSet)
    rescale x scaleSet x.machinePool.desired true
    return .advance .deploymentUninitialized

end TenantFleet.Workers
