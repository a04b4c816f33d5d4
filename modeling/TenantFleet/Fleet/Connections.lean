/-
# Connections

The subscriptions and clusters that are open, and how calls of a pass are answered over a network:
by the services that manage resources, by the APIs of clusters, and by the templates at hand. A
subscription is opened once and stays open with its token; a tenant cluster is opened anew every
time.

* `Connections.handler` : how a network answers programs.
-/
import TenantFleet.Cloud.Token
import TenantFleet.Data.Table
import TenantFleet.Fleet.Kubernetes
import TenantFleet.Program.Basic

namespace TenantFleet

open Http

/-- What is open. -/
structure Connections where
  /-- The addresses of the cloud. -/
  cloud : CloudAddresses
  /-- The API of the management cluster. -/
  management : KubeService
  /-- The subscription of the control plane. -/
  controlPlane : CloudSession
  /-- The subscriptions of clusters, by the secrets that open them. -/
  accounts : List (SecretRef × CloudSession) := []
  /-- The APIs of tenant clusters, by namespace and cluster. -/
  tenants : Table KubeService := .empty
  /-- The templates. -/
  templates : TemplateFiles
  /-- The machine that the program runs on. -/
  host : Host
  /-- The metrics. -/
  metrics : Metrics := {}

namespace Connections

variable {α ω : Type}

/-! ## Subscriptions -/

/-- The session of a subscription, if it is open. -/
def session? (c : Connections) : Account → Option CloudSession
  | .cluster secret => c.accounts.lookup secret
  | .controlPlane => some c.controlPlane

/-- The connections with the session of a subscription replaced. -/
def keep (c : Connections) (account : Account) (s : CloudSession) : Connections :=
  match account with
  | .cluster secret =>
    { c with accounts := (secret, s) :: c.accounts.filter fun e => e.1 ≠ secret }
  | .controlPlane => { c with controlPlane := s }

/-! ## Clusters -/

/-- The result of an exchange with the API of a cluster. -/
def talk (net : Network ω) (x : Exchange KubeError α) (w : ω) : Except KubeError α × ω :=
  x.run (net.link .transport) w

/-- Opens the subscription of a cluster with the credentials in a secret. -/
def openAccount (net : Network ω) (secret : SecretRef) (c : Connections) (w : ω) :
    Except Error String × Connections × ω :=
  match c.accounts.lookup secret with
  | some s => (.ok s.service.subscriptionId, c, w)
  | none =>
    match talk net (Management.accountSecret c.management secret) w with
    | (.error e, w) => (.error (.kube e), c, w)
    | (.ok s, w) =>
      match Credentials.ofSecret s with
      | .error fault => (.error (.invalidConfig fault), c, w)
      | .ok credentials =>
        (.ok credentials.subscriptionId, c.keep (.cluster secret) (.of credentials c.cloud), w)

/-- The API of a tenant cluster, if its kubeconfig exists. -/
def tenantService? (net : Network ω) (space clusterId : String) (c : Connections) (w : ω) :
    Except TenantError (Option KubeService) × ω :=
  match talk net (Management.kubeconfig? c.management space clusterId) w with
  | (.error e, w) => (.error (.kube e), w)
  | (.ok none, w) => (.ok none, w)
  | (.ok (some s), w) =>
    (((serviceIn (Name.kubeconfigSecret clusterId) s c.host).mapError .invalidKubeconfig).map
      some, w)

/-- Opens a tenant cluster unless its kubeconfig does not exist or its API does not answer. -/
def openTenant (net : Network ω) (space clusterId : String) (c : Connections) (w : ω) :
    Except Error Bool × Connections × ω :=
  match c.tenantService? net space clusterId w with
  | (.error e, w) => (.error (.tenant e), c, w)
  | (.ok none, w) => (.ok false, c, w)
  | (.ok (some s), w) =>
    match talk net s.probe w with
    | (.error _, w) => (.ok false, c, w)
    | (.ok (), w) => (.ok true, { c with tenants := Table.put c.tenants space clusterId s }, w)

/-- The result of a call to the API of the management cluster, with its failures told apart. -/
def manage {ε : Type} (net : Network ω) (x : KubeService → Exchange KubeError α)
    (raise : KubeError → ε) (c : Connections) (w : ω) : Except ε α × Connections × ω :=
  let (r, w) := talk net (x c.management) w
  (r.mapError raise, c, w)

/-! ## Calls -/

/-- The result of a request to a subscription; one that is not open cannot be reached. -/
def askCloud (net : Network ω) (account : Account) (group : String) (call : CloudCall)
    (c : Connections) (w : ω) : Except AzureError call.Answer × Connections × ω :=
  match c.session? account with
  | none => (.error .transport, c, w)
  | some s =>
    let (r, s, w) := s.perform net group call w
    (r, c.keep account s, w)

/-- The result of a request to a tenant cluster; one that is not open cannot be reached. -/
def askTenant (net : Network ω) (space clusterId : String) (call : TenantCall) (c : Connections)
    (w : ω) : Except TenantError call.Answer × Connections × ω :=
  match Table.at? c.tenants space clusterId with
  | none => (.error (.kube .transport), c, w)
  | some s =>
    let (r, w) := talk net (call.exchange s) w
    (r.mapError call.failure, c, w)

/-- The bundle of a member. -/
def findBundle (net : Network ω) (clusterId : String) (cert : EtcdCert) (c : Connections) (w : ω) :
    Except TenantError Tls × Connections × ω :=
  match talk net (Management.bundle? c.management clusterId cert) w with
  | (.error e, w) => (.error (.kube e), c, w)
  | (.ok secret, w) => (bundleIn clusterId cert secret, c, w)

/-- The result of a call, and what is open after it. -/
def perform (net : Network ω) (c : Connections) (w : ω) :
    (call : Call) → Except call.Failure call.Answer × Connections × ω
  | .cloud account group call => c.askCloud net account group call w
  | .openAccount secret => c.openAccount net secret w
  | .openTenant space clusterId => c.openTenant net space clusterId w
  | .tenant space clusterId call => c.askTenant net space clusterId call w
  | .createDrain config =>
    c.manage net (Management.createDrain · config)
      (TenantError.ofKube · (Management.drainName config.metadata.spaceName
        (config.metadata.name.getD ""))) w
  | .listDrains space clusterId => c.manage net (Management.listDrains · space clusterId) .kube w
  | .deleteDrain space name =>
    c.manage net (Management.deleteDrain · space name)
      (TenantError.ofKube · (Management.drainName space name)) w
  | .findBundle clusterId cert => c.findBundle net clusterId cert w
  | .getMachinePool space name => c.manage net (Management.machinePool? · space name) .kube w
  | .getCluster space name => c.manage net (Management.cluster? · space name) .kube w
  | .getAzureConfig space name => c.manage net (Management.azureConfig? · space name) .kube w
  | .ensureCertConfig config => c.manage net (Management.ensureCertConfig · config) .kube w
  | .saveStatus target handler values =>
    c.manage net (Management.save · target handler values) .kube w
  | .mastersTemplate config version => (c.templates.masters config version, c, w)
  | .poolTemplate pool machinePool version => (c.templates.pool pool machinePool version, c, w)

/-- How a network answers programs. -/
def handler (net : Network ω) : Handler (Connections × ω) where
  answer call state := perform net state.1 state.2 call
  note event state := ({ state.1 with metrics := state.1.metrics.record event }, state.2)

end Connections

end TenantFleet
