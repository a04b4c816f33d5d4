/-
# Settings

What the operator is told by the variables of its environment: the credentials of the control plane,
the names and versions it puts on resources, and how often it looks again.

* `Settings.load` : the settings of an environment, or the first fault in it.
-/
import TenantFleet.Settings.Credentials
import TenantFleet.Net.SocketAddress
import TenantFleet.Text.Unsigned
import TenantFleet.Version.Basic

namespace TenantFleet

/-- What a pass needs to know besides the declarations. -/
structure PassSettings where
  /-- The name of the installation, also of the control plane's network and resource group. -/
  installation : String
  /-- The version that resources are made with. -/
  version : Version
  /-- The delay in seconds of a stage that waits. -/
  wait : Nat
  /-- The delay in seconds of a machine that has settled. -/
  steady : Nat
  deriving DecidableEq, Inhabited

/-- All settings. -/
structure Settings where
  /-- The credentials of the control plane. -/
  credentials : Credentials
  /-- The addresses of the cloud. -/
  cloud : CloudAddresses
  /-- What a pass needs. -/
  pass : PassSettings
  /-- The namespace that is watched; all when none is set. -/
  watchSpace : Option String
  /-- Where metrics are served. -/
  metricsAddress : SocketAddress
  /-- The directory of the templates. -/
  templateDirectory : String
  deriving DecidableEq, Inhabited

namespace Settings

/-- The version unless another one is set. -/
def defaultVersion : String := "0.1.0"

/-- Where metrics are served unless set. -/
def defaultMetricsAddress : String := "0.0.0.0:8080"

/-- The delay of a stage that waits unless set. -/
def defaultWait : Nat := 30

/-- The delay of a settled machine unless set. -/
def defaultSteady : Nat := 300

/-- The directory of the templates unless set. -/
def defaultTemplateDirectory : String := "/opt/azure-operator/templates"

/-- The variables that are set. -/
abbrev Environment := Dict String

/-- A variable that must have a text. -/
def required (env : Environment) (name : String) : Except ConfigFault String :=
  match env.get? name with
  | some v => if v.isEmpty then .error (.missingVariable name) else .ok v
  | none => .error (.missingVariable name)

/-- A number of seconds. -/
def seconds (env : Environment) (name : String) (default : Nat) : Except ConfigFault Nat :=
  match env.get? name with
  | none => .ok default
  | some v =>
    match Unsigned.parse v with
    | .ok n => .ok n
    | .error cause => .error (.invalidSeconds name (Text.quoted v) cause.message)

/-- The version. -/
def version (env : Environment) : Except ConfigFault Version :=
  let name := "OPERATOR_VERSION"
  let v := env.getD name defaultVersion
  match Version.parse? v with
  | some version => .ok version
  | none => .error (.invalidVersion name (Text.quoted v))

/-- Where metrics are served. -/
def metricsAddressOf (env : Environment) : Except ConfigFault SocketAddress :=
  let name := "METRICS_ADDR"
  let v := env.getD name defaultMetricsAddress
  match SocketAddress.parse? v with
  | some address => .ok address
  | none => .error (.invalidAddress name (Text.quoted v))

/-- The settings of an environment. -/
def load (env : Environment) : Except ConfigFault Settings := do
  let tenantId ← required env "AZURE_TENANT_ID"
  let clientId ← required env "AZURE_CLIENT_ID"
  let clientSecret ← required env "AZURE_CLIENT_SECRET"
  let subscriptionId ← required env "AZURE_SUBSCRIPTION_ID"
  let installation ← required env "INSTALLATION_NAME"
  let version ← version env
  let metricsAddress ← metricsAddressOf env
  let wait ← seconds env "WAIT_REQUEUE_SECONDS" defaultWait
  let steady ← seconds env "STEADY_REQUEUE_SECONDS" defaultSteady
  let cloud : CloudAddresses := {}
  return {
    credentials := ⟨tenantId, clientId, clientSecret, subscriptionId⟩
    cloud := {
      manager := env.getD "AZURE_ENVIRONMENT_URL" cloud.manager
      authority := env.getD "AZURE_AUTHORITY_URL" cloud.authority }
    pass := ⟨installation, version, wait, steady⟩
    watchSpace := (env.get? "WATCH_NAMESPACE").filter fun v => !v.isEmpty
    metricsAddress := metricsAddress
    templateDirectory := env.getD "TEMPLATE_DIR" defaultTemplateDirectory }

/-- The document of settings. -/
def toJson (s : Settings) : Json :=
  .object [
    ("tenant_id", .str s.credentials.tenantId),
    ("client_id", .str s.credentials.clientId),
    ("client_secret", .str s.credentials.clientSecret),
    ("subscription_id", .str s.credentials.subscriptionId),
    ("resource_manager_url", .str s.cloud.manager),
    ("authority_url", .str s.cloud.authority),
    ("installation_name", .str s.pass.installation),
    ("operator_version", .str s.pass.version.text),
    ("watch_namespace", (s.watchSpace.map .str).getD .null),
    ("metrics_addr", .str s.metricsAddress.text),
    ("wait_requeue", .nat s.pass.wait),
    ("steady_requeue", .nat s.pass.steady),
    ("template_dir", .str s.templateDirectory)]

end Settings

end TenantFleet
