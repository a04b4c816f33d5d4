/-
# Deploying masters and moving them to the latest model

The deployment of the masters is submitted and observed. Then one instance at a time is updated to
the latest model and reimaged: the first one, when it was stopped for a backup, or each one that is
outdated.
-/
import TenantFleet.Masters.Backup

namespace TenantFleet.Masters

/-! ## Deployment -/

/-- The template of the masters. -/
def template (settings : PassSettings) (c : AzureConfig) : Program DeploymentTemplate :=
  Program.call (.mastersTemplate c settings.version.text)

/-- Submits the deployment unless it is unchanged. -/
def submit (settings : PassSettings) (c : AzureConfig) (s : HandlerState) :
    Program (Outcome MastersStage) := do
  let t ← template settings c
  let (submitted, s) ← submitIfChanged c.group Name.mastersDeployment s t
  return .advance (if submitted then .deploymentInitialized else .deploymentCompleted) s

/-- Observes the deployment until it ends. -/
def observe (settings : PassSettings) (c : AzureConfig) (s : HandlerState) :
    Program (Outcome MastersStage) := do
  match ← observeDeployment c.group Name.mastersDeployment with
  | .succeeded =>
    let backup ← findBackup c
    return .advance (if backup.isSome then .etcdMigrationCheck else .provisioningSuccessful) s
  | .failed | .missing => return .advance .deploymentUninitialized s.clearChecksums
  | .running => return .wait .deploymentInitialized settings.wait s

/-- Looks for changes of the template. -/
def settle (settings : PassSettings) (c : AzureConfig) (s : HandlerState) :
    Program (Outcome MastersStage) := do
  let t ← template settings c
  if (drift s t).isSome then return .advance .deploymentUninitialized s
  else return .wait .deploymentCompleted settings.steady s

/-! ## Single instances -/

/-- Moves an instance to the latest model and waits for the end of it. -/
def updateInstance (c : AzureConfig) (inst : String) : Program Unit := do
  c.group.wait (← c.group.call (.updateInstances (scaleSetOf c) [inst]))

/-- Reimages an instance and waits for the end of it. -/
def reimageInstance (c : AzureConfig) (inst : String) : Program Unit := do
  c.group.wait (← c.group.call (.reimage (scaleSetOf c) inst))

/-- Whether a master runs the latest model from its member disk. -/
def isMigrated (v : Instance) : Bool :=
  (v.diskAt Etcd.diskUnit).bind DataDisk.name = some backupDisk && v.latest

/-- Moves the stopped master to the latest model. -/
def update (c : AzureConfig) : Program (Transition MastersStage) := do
  let v ← firstInstance c
  if isMigrated v then return .advance .reimageMaster
  else
    updateInstance c v.instanceId
    return .advance .reimageMaster

/-- Reimages the stopped master; one that runs was reimaged and started before. -/
def reimage (settings : PassSettings) (c : AzureConfig) : Program (Transition MastersStage) := do
  let v ← firstInstance c
  if v.succeeded then
    let view ← c.group.call (.instanceView (scaleSetOf c) v.instanceId)
    if view.running then return .advance .startMaster
    else
      reimageInstance c v.instanceId
      return .advance .startMaster
  else return .wait .reimageMaster settings.wait

/-- Starts the stopped master. -/
def start (settings : PassSettings) (c : AzureConfig) : Program (Transition MastersStage) := do
  let v ← firstInstance c
  if v.succeeded then
    let _ ← c.group.call (.start (scaleSetOf c) v.instanceId)
    return .advance .clusterUpgradeRequirementCheck
  else return .wait .startMaster settings.wait

/-- Looks for outdated instances. -/
def checkUpgrade (c : AzureConfig) : Program (Transition MastersStage) := do
  let l ← instances c
  if l.all Instance.latest then return .advance .deploymentCompleted
  else return .advance .masterInstancesUpgrading

/-- Updates and reimages the first outdated instance. -/
def upgrade (settings : PassSettings) (c : AzureConfig) : Program (Transition MastersStage) := do
  match (← instances c).find? (fun v => !v.latest) with
  | none => return .advance .waitForMastersToBecomeReady
  | some v =>
    updateInstance c v.instanceId
    reimageInstance c v.instanceId
    return .wait .masterInstancesUpgrading settings.wait

/-- Waits for as many ready master nodes as there are masters. -/
def awaitReady (settings : PassSettings) (c : AzureConfig) : Program (Transition MastersStage) := do
  match ← Tenant.open? c.metadata.spaceName c.clusterId with
  | none => return .wait .waitForMastersToBecomeReady settings.wait
  | some tenant =>
    let nodes ← tenant.nodes Name.masterSelector
    if nodes.all Node.ready ∧ nodes.length = c.masterCount then return .advance .deploymentCompleted
    else return .wait .waitForMastersToBecomeReady settings.wait

end TenantFleet.Masters
