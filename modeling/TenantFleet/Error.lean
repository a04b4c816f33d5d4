/-
# Errors

The cloud, a cluster's API and a tenant's services fail in their own ways; a pass fails in one of
these or because something it needs is not as declared. Each error is a cause; its wording is made
in one place.

* `AzureError.ofStatus` : what a failed reply means;
* `Error.isNotFound` and `Error.isConflict` : the two classes that passes react to.
-/
import TenantFleet.Text.Utf8

namespace TenantFleet

/-! ## The cloud -/

/-- A failure of the cloud. -/
inductive AzureError
  /-- The resource does not exist. -/
  | notFound (text : String)
  /-- The resource changed meanwhile. -/
  | conflict (text : String)
  /-- Too many requests. -/
  | throttled (text : String)
  /-- The credentials were refused. -/
  | authentication (text : String)
  /-- Any other refused request. -/
  | api (status : Nat) (text : String)
  /-- An operation ended badly or not in time. -/
  | operationFailed (text : String)
  /-- The exchange itself failed. -/
  | transport
  /-- A reply is not the document that was expected. -/
  | undecodable
  deriving DecidableEq, Inhabited

namespace AzureError

/-- The failure that a refused request's status stands for. -/
def ofStatus (status : Nat) (text : String) : AzureError :=
  if status = 404 then .notFound text
  else if status = 409 ∨ status = 412 then .conflict text
  else if status = 429 then .throttled text
  else if status = 401 ∨ status = 403 then .authentication text
  else .api status text

/-- The wording. -/
def message : AzureError → String
  | .notFound text => "Not found: " ++ text
  | .conflict text => "Conflict: " ++ text
  | .throttled text => "Throttled: " ++ text
  | .authentication text => "Authentication failed: " ++ text
  | .api status text => "Azure API error (" ++ toString status ++ "): " ++ text
  | .operationFailed text => "Operation failed: " ++ text
  | .transport => "HTTP error"
  | .undecodable => "Serialization error"

/-- The name of the kind of failure. -/
def kind : AzureError → String
  | .notFound _ => "NotFound"
  | .conflict _ => "Conflict"
  | .throttled _ => "Throttled"
  | .authentication _ => "Authentication"
  | .api _ _ => "Api"
  | .operationFailed _ => "OperationFailed"
  | .transport => "Http"
  | .undecodable => "Serialization"

/-- Whether the resource does not exist. -/
def isNotFound : AzureError → Bool
  | .notFound _ => true
  | .api status _ => status = 404
  | _ => false

/-- Whether the resource changed meanwhile. -/
def isConflict : AzureError → Bool
  | .conflict _ => true
  | .api status _ => status = 409 || status = 412
  | _ => false

/-- A status stands for a missing resource exactly when it is 404. -/
theorem isNotFound_ofStatus (status : Nat) (text : String) :
    (ofStatus status text).isNotFound = decide (status = 404) := by
  unfold ofStatus
  split <;> (try split) <;> (try split) <;> (try split) <;> simp_all [isNotFound]

end AzureError

/-! ## The API of a cluster -/

/-- A failure of a cluster's API. -/
inductive KubeError
  /-- The API refused the request. -/
  | status (code : Nat) (reason message : String)
  /-- A reply is not the document that was expected. -/
  | undecodable
  /-- The request could not be made. -/
  | badRequest
  /-- The exchange itself failed. -/
  | transport
  deriving DecidableEq, Inhabited

/-- The name of the kind of failure. -/
def KubeError.kind : KubeError → String
  | .status _ _ _ => "Api"
  | .undecodable => "SerdeError"
  | .badRequest => "BuildRequest"
  | .transport => "Other"

/-- Whether the API refused the request with the given code. -/
def KubeError.hasCode (e : KubeError) (code : Nat) : Bool :=
  match e with
  | .status c _ _ => c = code
  | _ => false

/-! ## A tenant's services -/

/-- Why a certificate cannot be used. -/
inductive CertFault
  /-- There is no certificate for the member. -/
  | unknownMember (member : String)
  /-- The secret of the certificate does not exist. -/
  | missingSecret (space name : String)
  /-- The secret lacks a part of the bundle. -/
  | incompleteSecret (name key : String)
  /-- The bundle of the given name is not there. -/
  | missingBundle (name : String)
  /-- Reported in words. -/
  | reported (text : String)
  deriving DecidableEq, Inhabited

/-- The wording. -/
def CertFault.message : CertFault → String
  | .unknownMember member => "no certificate for etcd member " ++ member
  | .missingSecret space name => "secret " ++ space ++ "/" ++ name ++ " not found"
  | .incompleteSecret name key => "secret " ++ name ++ " has no " ++ key
  | .missingBundle name => name
  | .reported text => text

/-- Why a kubeconfig cannot be used. -/
inductive KubeconfigFault
  /-- The secret has no kubeconfig. -/
  | missingKey (name key : String)
  /-- The kubeconfig is no text. -/
  | notText (name : String) (cause : Utf8Error)
  /-- The kubeconfig is not well formed. -/
  | unparsable
  /-- The kubeconfig names something that it does not hold. -/
  | unloadable
  /-- No client can be made of the kubeconfig. -/
  | unusable
  /-- Reported in words. -/
  | reported (text : String)
  deriving DecidableEq, Inhabited

/-- The wording. -/
def KubeconfigFault.message : KubeconfigFault → String
  | .missingKey name key => "secret " ++ name ++ " has no " ++ key
  | .notText name cause => "secret " ++ name ++ " is not UTF-8: " ++ cause.message
  | .unparsable => "failed to parse kubeconfig"
  | .unloadable => "failed to load kubeconfig"
  | .unusable => "failed to create client"
  | .reported text => text

/-- A failure of a tenant's cluster, its drainer or its certificates. -/
inductive TenantError
  /-- A failure of the API. -/
  | kube (e : KubeError)
  /-- The API does not answer. -/
  | apiNotAvailable (text : String)
  /-- A certificate cannot be used. -/
  | certUnavailable (fault : CertFault)
  /-- The kubeconfig cannot be used. -/
  | invalidKubeconfig (fault : KubeconfigFault)
  /-- The object does not exist. -/
  | notFound (text : String)
  /-- The object exists already. -/
  | alreadyExists (text : String)
  deriving DecidableEq, Inhabited

namespace TenantError

/-- The wording, without that of an API failure. -/
def message : TenantError → String
  | .kube _ => "Kubernetes error"
  | .apiNotAvailable text => "Tenant API not available: " ++ text
  | .certUnavailable fault => "Certificate unavailable: " ++ fault.message
  | .invalidKubeconfig fault => "Invalid kubeconfig: " ++ fault.message
  | .notFound text => "Not found: " ++ text
  | .alreadyExists text => "Already exists: " ++ text

/-- The name of the kind of failure. -/
def kind : TenantError → String
  | .kube e => "Kube." ++ e.kind
  | .apiNotAvailable _ => "ApiNotAvailable"
  | .certUnavailable _ => "CertUnavailable"
  | .invalidKubeconfig _ => "InvalidKubeconfig"
  | .notFound _ => "NotFound"
  | .alreadyExists _ => "AlreadyExists"

/-- Whether the object does not exist. -/
def isNotFound : TenantError → Bool
  | .notFound _ => true
  | .kube e => e.hasCode 404
  | _ => false

/-- Whether the object exists already. -/
def isAlreadyExists : TenantError → Bool
  | .alreadyExists _ => true
  | .kube e => e.hasCode 409
  | _ => false

/-- The failure of a request about `what`: the codes of a missing and of an existing object are told
apart. -/
def ofKube (e : KubeError) (what : String) : TenantError :=
  if e.hasCode 404 then .notFound what
  else if e.hasCode 409 then .alreadyExists what
  else .kube e

end TenantError

/-! ## Passes -/

/-- Why a declaration or setting cannot be used. -/
inductive ConfigFault
  /-- A variable is not set. -/
  | missingVariable (name : String)
  /-- A variable is no semantic version. -/
  | invalidVersion (name shown : String)
  /-- A variable is no socket address. -/
  | invalidAddress (name shown : String)
  /-- A variable is no number of seconds. -/
  | invalidSeconds (name shown cause : String)
  /-- A cluster declares no masters. -/
  | noMasters (key : String)
  /-- A credential secret lacks a field. -/
  | missingCredential (secret key : String)
  /-- A field of a credential secret is no text. -/
  | credentialNotText (secret key : String) (cause : Utf8Error)
  /-- A template cannot be read. -/
  | unreadableTemplate (path cause : String)
  /-- A template is no document. -/
  | invalidTemplate (path : String)
  /-- Reported in words. -/
  | reported (text : String)
  deriving DecidableEq, Inhabited

/-- The wording. -/
def ConfigFault.message : ConfigFault → String
  | .missingVariable name => name ++ " environment variable is required"
  | .invalidVersion name shown => name ++ " " ++ shown ++ " is not a semantic version"
  | .invalidAddress name shown =>
    name ++ " " ++ shown ++ " is invalid: invalid socket address syntax"
  | .invalidSeconds name shown cause =>
    name ++ " " ++ shown ++ " is not a number of seconds: " ++ cause
  | .noMasters key => "AzureConfig " ++ key ++ " declares no masters"
  | .missingCredential secret key => "credential secret " ++ secret ++ " has no " ++ key
  | .credentialNotText secret key cause =>
    "credential secret " ++ secret ++ " key " ++ key ++ " is not UTF-8: " ++ cause.message
  | .unreadableTemplate path cause => "failed to read template " ++ path ++ ": " ++ cause
  | .invalidTemplate path => "template " ++ path ++ " is not valid JSON"
  | .reported text => text

/-- What is not as it must be for a pass to go on. -/
inductive ExecutionFault
  /-- A scale set has no instances. -/
  | noInstances (scaleSet : String)
  /-- An instance has no disk at the first unit. -/
  | noDisk (inst scaleSet : String)
  /-- An instance has no address. -/
  | noAddress
  /-- A network has no ID. -/
  | networksWithoutId (tenant controlPlane : String)
  /-- Reported in words. -/
  | reported (text : String)
  deriving DecidableEq, Inhabited

/-- The wording. -/
def ExecutionFault.message : ExecutionFault → String
  | .noInstances scaleSet => "scale set " ++ scaleSet ++ " has no instances"
  | .noDisk inst scaleSet => "instance " ++ inst ++ " of " ++ scaleSet ++ " has no disk at lun 0"
  | .noAddress => "ip address unavailable"
  | .networksWithoutId tenant controlPlane =>
    "virtual networks " ++ tenant ++ " and " ++ controlPlane ++ " must both have an ID"
  | .reported text => text

/-- A failure of a pass. -/
inductive Error
  /-- A failure of the management cluster's API. -/
  | kube (e : KubeError)
  /-- A failure of the cloud. -/
  | azure (e : AzureError)
  /-- A failure of a tenant's services. -/
  | tenant (e : TenantError)
  /-- A declaration or setting cannot be used. -/
  | invalidConfig (fault : ConfigFault)
  /-- An object has no owner of the expected kind. -/
  | ownerNotSet (text : String)
  /-- Something is not as it must be. -/
  | executionFailed (fault : ExecutionFault)
  /-- A stage was to be followed by one that is no successor of it. -/
  | invalidTransition (source target : String)
  /-- The pass failed. -/
  | reconciliation (text : String)
  /-- Watching objects failed. -/
  | watch (text : String)
  deriving DecidableEq, Inhabited

namespace Error

/-- The wording. -/
def message : Error → String
  | .kube _ => "Kubernetes error"
  | .azure e => "Azure error: " ++ e.message
  | .tenant e => "Tenant cluster error: " ++ e.message
  | .invalidConfig fault => "Invalid configuration: " ++ fault.message
  | .ownerNotSet text => "Owner reference not set: " ++ text
  | .executionFailed fault => "Execution failed: " ++ fault.message
  | .invalidTransition source target => "Invalid transition from " ++ source ++ " to " ++ target
  | .reconciliation text => "Reconciliation failed: " ++ text
  | .watch text => "Resource watch failed: " ++ text

/-- The name of the kind of failure. -/
def kind : Error → String
  | .kube e => "Kube." ++ e.kind
  | .azure e => "Azure." ++ e.kind
  | .tenant e => "Tenant." ++ e.kind
  | .invalidConfig _ => "InvalidConfig"
  | .ownerNotSet _ => "OwnerReferenceNotSet"
  | .executionFailed _ => "ExecutionFailed"
  | .invalidTransition _ _ => "InvalidTransition"
  | .reconciliation _ => "Reconciliation"
  | .watch _ => "Watch"

/-- Whether something that was asked for does not exist. -/
def isNotFound : Error → Bool
  | .kube e => e.hasCode 404
  | .azure e => e.isNotFound
  | .tenant e => e.isNotFound
  | _ => false

/-- Whether a write was refused because the object changed meanwhile. -/
def isConflict : Error → Bool
  | .kube e => e.hasCode 409
  | .azure e => e.isConflict
  | .tenant (.kube e) => e.hasCode 409
  | _ => false

end Error

end TenantFleet
