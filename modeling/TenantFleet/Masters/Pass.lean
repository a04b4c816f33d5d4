/-
# One pass over the masters of a cluster

* `stage` : what is done in each stage;
* `ensure` : the pass.
-/
import TenantFleet.Masters.Upgrade

namespace TenantFleet.Masters

/-- The name that the masters' map is kept under. -/
def handler : String := "masters"

/-- A stage that leaves the map as it is. -/
def keeping (s : HandlerState) (p : Program (Transition MastersStage)) :
    Program (Outcome MastersStage) := do
  return ⟨← p, s⟩

/-- What is done in a stage. -/
def stage (settings : PassSettings) (c : AzureConfig) (s : HandlerState) :
    MastersStage → Program (Outcome MastersStage)
  | .empty => keeping s (begin settings c)
  | .backupEtcdDisk => keeping s (requestDrains settings c)
  | .waitForMastersToDrain => keeping s (awaitDrains settings c)
  | .stopMasters => keeping s (stop settings c)
  | .ensureSnapshot => keeping s (backUp settings c)
  | .deploymentUninitialized => submit settings c s
  | .deploymentInitialized => observe settings c s
  | .provisioningSuccessful => return .advance .clusterUpgradeRequirementCheck s
  | .etcdMigrationCheck => return .advance .updateMaster s
  | .updateMaster => keeping s (update c)
  | .reimageMaster => keeping s (reimage settings c)
  | .startMaster => keeping s (start settings c)
  | .clusterUpgradeRequirementCheck => keeping s (checkUpgrade c)
  | .masterInstancesUpgrading => keeping s (upgrade settings c)
  | .waitForMastersToBecomeReady => keeping s (awaitReady settings c)
  | .deploymentCompleted => settle settings c s

/-- The map of the masters of a cluster. -/
def stateOf (c : AzureConfig) : HandlerState :=
  HandlerState.load (c.status.map AzureConfigStatus.resources) handler

/-- Runs the stage that the masters are in, and gives the delay in seconds before the next pass. -/
def ensure (settings : PassSettings) (now : Timestamp) (c : AzureConfig) : Program Nat := do
  let s := stateOf c
  let source := s.stage MastersStage
  persist settings now handler (StatusTarget.ofConfig c) source (← stage settings c s source)

end TenantFleet.Masters
