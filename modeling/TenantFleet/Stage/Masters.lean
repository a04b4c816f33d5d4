/-
# The stages of the masters

Masters from before the time of member disks are drained, stopped and backed up first. Then the
deployment is submitted and observed, and the instances are moved to the latest model one at a time.
-/
import TenantFleet.Stage.Basic

namespace TenantFleet

/-- A stage of the masters. -/
inductive MastersStage
  | empty
  | backupEtcdDisk
  | waitForMastersToDrain
  | stopMasters
  | ensureSnapshot
  | deploymentUninitialized
  | deploymentInitialized
  | provisioningSuccessful
  | etcdMigrationCheck
  | updateMaster
  | reimageMaster
  | startMaster
  | clusterUpgradeRequirementCheck
  | masterInstancesUpgrading
  | waitForMastersToBecomeReady
  | deploymentCompleted
  deriving DecidableEq, Inhabited

namespace MastersStage

/-- The name that is kept in the status. -/
def name : MastersStage → String
  | empty => ""
  | backupEtcdDisk => "BackupETCDDisk"
  | waitForMastersToDrain => "WaitForMastersToDrain"
  | stopMasters => "StopMasters"
  | ensureSnapshot => "EnsureSnapshot"
  | deploymentUninitialized => "DeploymentUninitialized"
  | deploymentInitialized => "DeploymentInitialized"
  | provisioningSuccessful => "ProvisioningSuccessful"
  | etcdMigrationCheck => "ETCDMigrationCheck"
  | updateMaster => "UpdateMaster"
  | reimageMaster => "ReimageMaster"
  | startMaster => "StartMaster"
  | clusterUpgradeRequirementCheck => "ClusterUpgradeRequirementCheck"
  | masterInstancesUpgrading => "MasterInstancesUpgrading"
  | waitForMastersToBecomeReady => "WaitForMastersToBecomeReady"
  | deploymentCompleted => "DeploymentCompleted"

/-- All stages, in the order of an upgrade. -/
def all : List MastersStage := [
  empty, backupEtcdDisk, waitForMastersToDrain, stopMasters, ensureSnapshot,
  deploymentUninitialized, deploymentInitialized, provisioningSuccessful, etcdMigrationCheck,
  updateMaster, reimageMaster, startMaster, clusterUpgradeRequirementCheck,
  masterInstancesUpgrading, waitForMastersToBecomeReady, deploymentCompleted]

/-- The stages that may follow a stage. -/
def successors : MastersStage → List MastersStage
  | empty => [backupEtcdDisk, deploymentUninitialized]
  | backupEtcdDisk => [waitForMastersToDrain]
  | waitForMastersToDrain => [stopMasters]
  | stopMasters => [ensureSnapshot]
  | ensureSnapshot => [deploymentUninitialized]
  | deploymentUninitialized => [deploymentInitialized, deploymentCompleted]
  | deploymentInitialized => [etcdMigrationCheck, provisioningSuccessful, deploymentUninitialized]
  | provisioningSuccessful => [clusterUpgradeRequirementCheck]
  | etcdMigrationCheck => [updateMaster, clusterUpgradeRequirementCheck]
  | updateMaster => [reimageMaster]
  | reimageMaster => [startMaster]
  | startMaster => [clusterUpgradeRequirementCheck]
  | clusterUpgradeRequirementCheck => [masterInstancesUpgrading, deploymentCompleted]
  | masterInstancesUpgrading => [waitForMastersToBecomeReady]
  | waitForMastersToBecomeReady => [deploymentCompleted]
  | deploymentCompleted => [deploymentUninitialized]

instance : Stage MastersStage where
  decEq := inferInstance
  initial := empty
  all := all
  name := name
  successors := successors

/-- Every stage is listed. -/
theorem mem_all (s : MastersStage) : s ∈ all := by
  cases s <;> decide

/-- A stage is found again by its name. -/
@[simp] theorem ofName_name (s : MastersStage) :
    (Stage.ofName (Stage.name s) : MastersStage) = s := by
  cases s <;> decide

end MastersStage

end TenantFleet
