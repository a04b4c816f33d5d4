/-
# Deployments of a pass

A deployment is submitted when its template or parameters are not those submitted last, and observed
until it ends.

* `submitIfChanged` : submits a deployment and keeps its checksums;
* `observeDeployment` : how far a deployment is.
-/
import TenantFleet.Pass.Basic

namespace TenantFleet

/-- How far a deployment is. -/
inductive DeploymentState
  | succeeded
  | failed
  | missing
  | running
  deriving DecidableEq, Inhabited

/-- How far a deployment is, when it exists. -/
def Deployment.observe (d : Deployment) : DeploymentState :=
  if d.succeeded then .succeeded else if d.failed then .failed else .running

/-- How far the deployment of a name is. -/
def observeDeployment (g : ResourceGroup) (name : String) : Program DeploymentState := do
  match ← g.find? (.getDeployment name) with
  | some d => return d.observe
  | none => return .missing

/-- Submits a template unless it is unchanged; the map that is given back knows the checksums of
what was submitted. -/
def submitIfChanged (g : ResourceGroup) (name : String) (s : HandlerState)
    (t : DeploymentTemplate) :
    Program (Bool × HandlerState) :=
  match drift s t with
  | none => return (false, s)
  | some (template, parameters) => do
    let _ ← g.call (.putDeployment name t.deployment)
    return (true, s.setChecksums template parameters)

end TenantFleet
