/-
# One pass over the workers of a pool

* `stage` : what is done in each stage;
* `ensure` : the pass.
-/
import TenantFleet.Workers.Scale

namespace TenantFleet.Workers

/-- The name that the workers' map is kept under. -/
def handler : String := "nodepool"

/-! ## Deployment -/

/-- The template of the pool. -/
def template (x : Scope) : Program DeploymentTemplate :=
  Program.call (.poolTemplate x.pool x.machinePool x.settings.version.text)

/-- Submits the deployment unless it is unchanged. -/
def submit (x : Scope) (s : HandlerState) : Program (Outcome WorkersStage) := do
  let t ← template x
  let (submitted, s) ← submitIfChanged x.group x.scaleSet s t
  return .advance (if submitted then .deploymentInitialized else .deploymentCompleted) s

/-- Observes the deployment until it ends. -/
def observe (x : Scope) (s : HandlerState) : Program (Outcome WorkersStage) := do
  match ← observeDeployment x.group x.scaleSet with
  | .succeeded => return .advance .scaleUp s
  | .failed | .missing => return .advance .deploymentUninitialized s.clearChecksums
  | .running => return .wait .deploymentInitialized x.settings.wait s

/-- Looks for changes of the template. -/
def settle (x : Scope) (s : HandlerState) : Program (Outcome WorkersStage) := do
  let t ← template x
  if (drift s t).isSome then return .advance .deploymentUninitialized s
  else return .wait .deploymentCompleted x.settings.steady s

/-! ## The pass -/

/-- A stage that leaves the map as it is. -/
def keeping (s : HandlerState) (p : Program (Transition WorkersStage)) :
    Program (Outcome WorkersStage) := do
  return ⟨← p, s⟩

/-- What is done in a stage. -/
def stage (x : Scope) (s : HandlerState) : WorkersStage → Program (Outcome WorkersStage)
  | .empty => return .advance .deploymentUninitialized s
  | .deploymentUninitialized => submit x s
  | .deploymentInitialized => observe x s
  | .scaleUp => Workers.scaleUp x s
  | .cordonOldWorkers => keeping s (cordonOld x)
  | .waitForWorkersToBecomeReady => keeping s (awaitReady x)
  | .scaleDown => keeping s (Workers.scaleDown x)
  | .deploymentCompleted => settle x s

/-- The map of the workers of a pool. -/
def stateOf (p : AzureMachinePool) : HandlerState :=
  HandlerState.load (p.status.map AzureMachinePoolStatus.resources) handler

/-- Runs the stage that the workers are in, and gives the delay in seconds before the next pass. -/
def ensure (x : Scope) (now : Timestamp) : Program Nat := do
  let s := stateOf x.pool
  let source := s.stage WorkersStage
  persist x.settings now handler (StatusTarget.ofPool x.pool) source (← stage x s source)

end TenantFleet.Workers
