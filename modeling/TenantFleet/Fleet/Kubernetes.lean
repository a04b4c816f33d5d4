/-
# Requests to clusters

How the calls of a pass are put to the APIs of the management cluster and of a tenant cluster, and
which failures they lead to.

* `TenantCall.exchange` : a request to a tenant cluster;
* `Management.save` : a write of what a handler keeps.
-/
import TenantFleet.Call.Basic
import TenantFleet.Kube.Kubeconfig.Service
import TenantFleet.Label

namespace TenantFleet

open Http

/-! ## Tenant clusters -/

namespace TenantCall

/-- The change that keeps new work away from a node. -/
def cordonPatch : Json := .record [("spec", some (.record [("unschedulable", some (.bool true))]))]

/-- How a request to a tenant cluster is put to its API. -/
def exchange (s : KubeService) : (c : TenantCall) → Exchange KubeError c.Answer
  | .listNodes selector => s.list Node.read Node.kind none selector
  | .cordonNode name => (s.patch Node.read Node.kind none name cordonPatch).map fun _ => ()
  | .deleteNode name => s.delete Node.read Node.kind none name

/-- The failure that a failure of the API leads to. -/
def failure : TenantCall → KubeError → TenantError
  | .listNodes _, e => .kube e
  | .cordonNode name, e | .deleteNode name, e => .ofKube e ("node " ++ name)

end TenantCall

/-! ## The management cluster -/

namespace Management

variable (s : KubeService)

/-- A pool, if it exists. -/
def machinePool? (space name : String) : Exchange KubeError (Option MachinePool) :=
  s.find? MachinePool.read MachinePool.kind (some space) name

/-- A cluster, if it exists. -/
def cluster? (space name : String) : Exchange KubeError (Option Cluster) :=
  s.find? Cluster.read Cluster.kind (some space) name

/-- A cluster configuration, if it exists. -/
def azureConfig? (space name : String) : Exchange KubeError (Option AzureConfig) :=
  s.find? AzureConfig.read AzureConfig.kind (some space) name

/-- Asks for a certificate unless that was done before. -/
def ensureCertConfig (c : CertConfig) : Exchange KubeError Unit :=
  s.ensure CertConfig.read CertConfig.kind (some c.metadata.spaceName) c.toJson

/-- Replaces what a handler keeps in the status of an object. -/
def save (target : StatusTarget) (handler : String) (values : Dict String) :
    Exchange KubeError Unit :=
  let change := statusPatch target.resourceVersion handler values
  match target.kind with
  | .azureConfig =>
    (s.patchStatus AzureConfig.read AzureConfig.kind (some target.space) target.name change).map
      fun _ => ()
  | .azureMachinePool =>
    (s.patchStatus AzureMachinePool.read AzureMachinePool.kind (some target.space) target.name
      change).map fun _ => ()

/-! ### Drain requests -/

/-- A drain request in the words of failures. -/
def drainName (space name : String) : String := "drainer config " ++ space ++ "/" ++ name

/-- Asks for a node to be drained. -/
def createDrain (d : DrainerConfig) : Exchange KubeError DrainerConfig :=
  s.create DrainerConfig.read DrainerConfig.kind (some d.metadata.spaceName) d.toJson

/-- The drain requests of a cluster. -/
def listDrains (space clusterId : String) : Exchange KubeError (List DrainerConfig) :=
  s.list DrainerConfig.read DrainerConfig.kind (some space)
    (some (Label.cluster ++ "=" ++ clusterId))

/-- Withdraws a drain request. -/
def deleteDrain (space name : String) : Exchange KubeError Unit :=
  s.delete DrainerConfig.read DrainerConfig.kind (some space) name

/-! ### Secrets -/

/-- The secret of an account. -/
def accountSecret (secret : SecretRef) : Exchange KubeError Secret :=
  s.get Secret.read Secret.kind (some secret.space) secret.name

/-- The name of the secret with the bundle of a member. -/
def bundleSecret (clusterId : String) (cert : EtcdCert) : String := clusterId ++ "-" ++ cert.name

/-- The secret with the bundle of a member, if it exists. -/
def bundle? (clusterId : String) (cert : EtcdCert) : Exchange KubeError (Option Secret) :=
  s.find? Secret.read Secret.kind (some certificateNamespace) (bundleSecret clusterId cert)

/-- The secret with the kubeconfig of a cluster, if it exists. -/
def kubeconfig? (space clusterId : String) : Exchange KubeError (Option Secret) :=
  s.find? Secret.read Secret.kind (some space) (Name.kubeconfigSecret clusterId)

end Management

/-- The bundle of a member in the secret that was found, if one was. -/
def bundleIn (clusterId : String) (cert : EtcdCert) : Option Secret → Except TenantError Tls
  | none => .error (.certUnavailable
      (.missingSecret certificateNamespace (Management.bundleSecret clusterId cert)))
  | some s => (Tls.ofSecret (Management.bundleSecret clusterId cert) s).mapError .certUnavailable

/-- The failure of a tenant cluster whose API does not answer. -/
def unavailable (e : KubeError) : TenantError := .apiNotAvailable (Error.kube e).message

/-- The key of the kubeconfig in its secret. -/
def kubeconfigKey : String := "value"

/-- The API that the kubeconfig in a secret of the given name leads to. -/
def serviceIn (name : String) (s : Secret) (h : Host) : Except KubeconfigFault KubeService :=
  match s.bytes? kubeconfigKey with
  | none => .error (.missingKey name kubeconfigKey)
  | some bytes =>
    match Utf8.decode bytes with
    | .error cause => .error (.notText name cause)
    | .ok text => Kubeconfig.serviceOf text h

end TenantFleet
