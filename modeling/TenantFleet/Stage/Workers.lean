/-
# The stages of the workers

The scale set of a pool is doubled, the old workers are closed for new work once their replacements
joined, and removed when the replacements are ready.
-/
import TenantFleet.Stage.Basic

namespace TenantFleet

/-- A stage of the workers of a pool. -/
inductive WorkersStage
  | empty
  | deploymentUninitialized
  | deploymentInitialized
  | scaleUp
  | cordonOldWorkers
  | waitForWorkersToBecomeReady
  | scaleDown
  | deploymentCompleted
  deriving DecidableEq, Inhabited

namespace WorkersStage

/-- The name that is kept in the status. -/
def name : WorkersStage → String
  | empty => ""
  | deploymentUninitialized => "DeploymentUninitialized"
  | deploymentInitialized => "DeploymentInitialized"
  | scaleUp => "ScaleUpWorkerVMSS"
  | cordonOldWorkers => "CordonOldWorkers"
  | waitForWorkersToBecomeReady => "WaitForWorkersToBecomeReady"
  | scaleDown => "ScaleDownWorkerVMSS"
  | deploymentCompleted => "DeploymentCompleted"

/-- All stages, in the order of an upgrade. -/
def all : List WorkersStage := [
  empty, deploymentUninitialized, deploymentInitialized, scaleUp, cordonOldWorkers,
  waitForWorkersToBecomeReady, scaleDown, deploymentCompleted]

/-- The stages that may follow a stage. -/
def successors : WorkersStage → List WorkersStage
  | empty => [deploymentUninitialized]
  | deploymentUninitialized => [deploymentInitialized, deploymentCompleted]
  | deploymentInitialized => [scaleUp, deploymentUninitialized]
  | scaleUp => [cordonOldWorkers, deploymentUninitialized]
  | cordonOldWorkers => [waitForWorkersToBecomeReady]
  | waitForWorkersToBecomeReady => [scaleDown]
  | scaleDown => [deploymentUninitialized]
  | deploymentCompleted => [deploymentUninitialized]

instance : Stage WorkersStage where
  decEq := inferInstance
  initial := empty
  all := all
  name := name
  successors := successors

/-- Every stage is listed. -/
theorem mem_all (s : WorkersStage) : s ∈ all := by
  cases s <;> decide

/-- A stage is found again by its name. -/
@[simp] theorem ofName_name (s : WorkersStage) :
    (Stage.ofName (Stage.name s) : WorkersStage) = s := by
  cases s <;> decide

end WorkersStage

end TenantFleet
