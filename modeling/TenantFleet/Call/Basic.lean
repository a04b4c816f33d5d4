/-
# Calls

What a pass can ask of the world around it: of two subscriptions, of a tenant cluster, of the
management cluster and the services in it, and of the templates. Each call has a type of answers and
a type of failures.
-/
import TenantFleet.Call.Cloud
import TenantFleet.Object.Node
import TenantFleet.Object.DrainerConfig
import TenantFleet.Object.CertConfig
import TenantFleet.Stage.State
import TenantFleet.Template.Basic

namespace TenantFleet

/-- A subscription: of the cluster that a pass is about, or of the control plane. -/
inductive Account
  /-- The subscription that a secret opens. -/
  | cluster (secret : SecretRef)
  /-- The subscription of the control plane. -/
  | controlPlane
  deriving DecidableEq, Inhabited

/-- A request to a tenant cluster. -/
inductive TenantCall
  | listNodes (selector : Option String)
  | cordonNode (name : String)
  | deleteNode (name : String)
  deriving DecidableEq, Inhabited

/-- What a request to a tenant cluster is answered with when it succeeds. -/
@[reducible] def TenantCall.Answer : TenantCall → Type
  | listNodes _ => List Node
  | cordonNode _ | deleteNode _ => Unit

/-- A call of a pass. -/
inductive Call
  /-- A request to a subscription. -/
  | cloud (account : Account) (group : String) (call : CloudCall)
  /-- Open the subscription of a cluster; answered with its ID. -/
  | openAccount (secret : SecretRef)
  /-- Open a tenant cluster; answered with whether it can be reached. -/
  | openTenant (space clusterId : String)
  /-- A request to an open tenant cluster. -/
  | tenant (space clusterId : String) (call : TenantCall)
  /-- Ask for a node to be drained. -/
  | createDrain (config : DrainerConfig)
  /-- The drain requests of a cluster. -/
  | listDrains (space clusterId : String)
  /-- Withdraw a drain request. -/
  | deleteDrain (space name : String)
  /-- The issued bundle of a member. -/
  | findBundle (clusterId : String) (cert : EtcdCert)
  /-- A pool, if it exists. -/
  | getMachinePool (space name : String)
  /-- A cluster, if it exists. -/
  | getCluster (space name : String)
  /-- A cluster configuration, if it exists. -/
  | getAzureConfig (space name : String)
  /-- Ask for a certificate unless that was done before. -/
  | ensureCertConfig (config : CertConfig)
  /-- Replace what a handler keeps. -/
  | saveStatus (target : StatusTarget) (handler : String) (values : Dict String)
  /-- The template of the masters. -/
  | mastersTemplate (config : AzureConfig) (version : String)
  /-- The template of a pool. -/
  | poolTemplate (pool : AzureMachinePool) (machinePool : MachinePool) (version : String)
  deriving Inhabited

namespace Call

/-- What a call is answered with when it succeeds. -/
@[reducible] def Answer : Call → Type
  | cloud _ _ c => c.Answer
  | openAccount _ => String
  | openTenant _ _ => Bool
  | tenant _ _ c => c.Answer
  | createDrain _ => DrainerConfig
  | listDrains _ _ => List DrainerConfig
  | deleteDrain _ _ => Unit
  | findBundle _ _ => Tls
  | getMachinePool _ _ => Option MachinePool
  | getCluster _ _ => Option Cluster
  | getAzureConfig _ _ => Option AzureConfig
  | ensureCertConfig _ => Unit
  | saveStatus _ _ _ => Unit
  | mastersTemplate _ _ => DeploymentTemplate
  | poolTemplate _ _ _ => DeploymentTemplate

/-- How a call fails. -/
@[reducible] def Failure : Call → Type
  | cloud _ _ _ => AzureError
  | tenant _ _ _ | createDrain _ | listDrains _ _ | deleteDrain _ _ | findBundle _ _ => TenantError
  | openAccount _ | openTenant _ _ | getMachinePool _ _ | getCluster _ _ | getAzureConfig _ _
  | ensureCertConfig _ | saveStatus _ _ _ | mastersTemplate _ _ | poolTemplate _ _ _ => Error

/-- The failure of a pass that a failed call leads to. -/
def raise : (c : Call) → c.Failure → Error
  | cloud _ _ _, e => .azure e
  | tenant _ _ _, e | createDrain _, e | listDrains _ _, e | deleteDrain _ _, e |
    findBundle _ _, e =>
    .tenant e
  | openAccount _, e | openTenant _ _, e | getMachinePool _ _, e | getCluster _ _, e
  | getAzureConfig _ _, e | ensureCertConfig _, e | saveStatus _ _ _, e | mastersTemplate _ _, e
  | poolTemplate _ _ _, e => e

end Call

end TenantFleet
