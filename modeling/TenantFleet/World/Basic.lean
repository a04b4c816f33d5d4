/-
# A world in memory

Two subscriptions, a tenant cluster, the drain requests and bundles, the declarations of the
management cluster and the writes of the passes. Every call is written down before it is answered,
and a method, or one target of it, can be made to fail.

* `World.handler` : how the world answers programs.
-/
import TenantFleet.World.Subscription
import TenantFleet.Label
import TenantFleet.Program.Basic

namespace TenantFleet

/-- A write of what a handler keeps. -/
structure SavedState where
  /-- The object. -/
  target : StatusTarget
  /-- The handler. -/
  handler : String
  /-- What is kept. -/
  values : Dict String
  deriving DecidableEq, Inhabited

namespace SavedState

/-- The handlers' maps after a write. -/
def applyTo (s : SavedState) (maps : HandlerMaps) : HandlerMaps := maps.insert s.handler s.values

/-- A cluster configuration after a write, which may be about another object. -/
def applyToConfig (s : SavedState) (c : AzureConfig) : AzureConfig :=
  if s.target.kind = .azureConfig ∧ s.target.name = c.metadata.anyName then c.modifyMaps s.applyTo
  else c

/-- A pool after a write, which may be about another object. -/
def applyToPool (s : SavedState) (p : AzureMachinePool) : AzureMachinePool :=
  if s.target.kind = .azureMachinePool ∧ s.target.name = p.metadata.anyName then
    p.modifyMaps s.applyTo
  else p

end SavedState

/-- A world in memory. -/
structure World where
  /-- The subscription of the cluster. -/
  cluster : Subscription := { id := "sub-tenant" }
  /-- The subscription of the control plane. -/
  controlPlane : Subscription := { id := "sub-control-plane" }
  /-- Whether the tenant cluster can be reached. -/
  reachable : Bool := true
  /-- The nodes of the tenant cluster. -/
  nodes : Dict Node := .empty
  /-- The nodes that were closed for new work. -/
  cordoned : List String := []
  /-- The nodes that were deleted. -/
  deletedNodes : List String := []
  /-- The drain requests, by namespace and name. -/
  drains : Table DrainerConfig := .empty
  /-- The drain requests that were deleted. -/
  deletedDrains : List String := []
  /-- The bundles, by cluster and member. -/
  bundles : Table Tls := .empty
  /-- The pools, by namespace and name. -/
  machinePools : Table MachinePool := .empty
  /-- The clusters, by namespace and name. -/
  clusters : Table Cluster := .empty
  /-- The cluster configurations, by namespace and name. -/
  configs : Table AzureConfig := .empty
  /-- The certificate requests, by namespace and name. -/
  certConfigs : Table CertConfig := .empty
  /-- The writes so far. -/
  saves : List SavedState := []
  /-- The template of every deployment. -/
  template : Json
  /-- The failures, by method or by method and target. -/
  failures : Dict Error := .empty
  /-- The calls so far, with their targets. -/
  log : List String := []
  /-- The metrics. -/
  metrics : Metrics := {}

/-! ## Selectors -/

/-- The parts of a text between commas. -/
def selectorTerms (selector : String) : List (List Char) :=
  (selector.toList.splitOn ',').filter fun t => !t.isEmpty

/-- Whether labels fulfil a term: a key, or a key with a value. -/
def fulfils (labels : Dict String) (term : List Char) : Bool :=
  let key := term.takeWhile (· ≠ '=')
  match term.drop key.length with
  | [] => labels.contains (String.ofList key)
  | _ :: value => labels.get? (String.ofList key) = some (String.ofList value)

/-- Whether a node has the labels of a selector. -/
def Node.selectedBy (n : Node) (selector : String) : Bool :=
  (selectorTerms selector).all (fulfils (n.metadata.labels.getD .empty))

namespace World

/-! ## Calls -/

/-- The method of a call that is not about a subscription, and its target. -/
def methodOf : Call → String × String
  | .cloud _ _ c => (c.method, c.target)
  | .openAccount secret => ("azure_client", secret.space ++ "/" ++ secret.name)
  | .openTenant space clusterId => ("tenant_client", space ++ "/" ++ clusterId)
  | .tenant _ _ (.listNodes selector) => ("list_nodes", selector.getD "<none>")
  | .tenant _ _ (.cordonNode name) => ("cordon_node", name)
  | .tenant _ _ (.deleteNode name) => ("delete_node", name)
  | .createDrain config => ("create_drainer_config", config.metadata.name.getD "")
  | .listDrains space clusterId => ("list_drainer_configs", space ++ "/" ++ clusterId)
  | .deleteDrain space name => ("delete_drainer_config", space ++ "/" ++ name)
  | .findBundle clusterId cert => ("search_tls", clusterId ++ "-" ++ cert.name)
  | .getMachinePool space name => ("get_machine_pool", space ++ "/" ++ name)
  | .getCluster space name => ("get_cluster", space ++ "/" ++ name)
  | .getAzureConfig space name => ("get_azure_config", space ++ "/" ++ name)
  | .ensureCertConfig config => ("ensure_cert_config", config.metadata.key)
  | .saveStatus target _ _ => ("save", target.space ++ "/" ++ target.name)
  | .mastersTemplate _ _ => ("template", "masters")
  | .poolTemplate _ _ _ => ("template", "node_pool")

/-- The failure that was asked for a call: that of its target, else that of its method. -/
def failureFor (w : World) (c : Call) : Option Error :=
  let (method, target) := methodOf c
  w.failures.get? (method ++ ":" ++ target) <|> w.failures.get? method

/-- The failure of a call that a failure of a pass stands for; services of a tenant fail in their
own way only. -/
def asFailure : (c : Call) → Error → Option c.Failure
  | .cloud _ _ _, .azure e => some e
  | .cloud _ _ _, _ => none
  | .tenant _ _ _, .tenant e | .createDrain _, .tenant e | .listDrains _ _, .tenant e
  | .deleteDrain _ _, .tenant e | .findBundle _ _, .tenant e => some e
  | .tenant _ _ _, _ | .createDrain _, _ | .listDrains _ _, _ | .deleteDrain _ _, _
  | .findBundle _ _, _ => none
  | .openAccount _, e | .openTenant _ _, e | .getMachinePool _ _, e | .getCluster _ _, e
  | .getAzureConfig _ _, e | .ensureCertConfig _, e | .saveStatus _ _ _, e | .mastersTemplate _ _, e
  | .poolTemplate _ _ _, e => some e

/-- The subscription of an account. -/
def subscription (w : World) : Account → Subscription
  | .cluster _ => w.cluster
  | .controlPlane => w.controlPlane

/-- The world with another subscription for an account. -/
def setSubscription (w : World) (account : Account) (s : Subscription) : World :=
  match account with
  | .cluster _ => { w with cluster := s }
  | .controlPlane => { w with controlPlane := s }

/-! ## The tenant cluster -/

/-- The answer of the tenant cluster. -/
def performTenant (w : World) : (c : TenantCall) → Except TenantError c.Answer × World
  | .listNodes selector =>
    (.ok (w.nodes.values.filter fun n => selector.all n.selectedBy), w)
  | .cordonNode name =>
    match w.nodes.get? name with
    | some n =>
      (.ok (), { w with
        nodes := w.nodes.insert name n.cordon
        cordoned := w.cordoned ++ [name] })
    | none => (.error (.notFound ("node " ++ name)), w)
  | .deleteNode name =>
    if w.nodes.contains name then
      (.ok (), { w with
        nodes := w.nodes.erase name
        deletedNodes := w.deletedNodes ++ [name] })
    else (.error (.notFound ("node " ++ name)), w)

/-! ## Drain requests -/

/-- Whether a drain request is for a cluster. -/
def drainsCluster (clusterId : String) (d : DrainerConfig) : Bool :=
  d.metadata.label? Label.cluster = some clusterId

/-- Stores a drain request unless there is one of its name. -/
def createDrain (w : World) (d : DrainerConfig) : Except TenantError DrainerConfig × World :=
  let space := d.metadata.spaceName
  let name := d.metadata.name.getD ""
  match Table.at? w.drains space name with
  | some _ => (.error (.alreadyExists ("drainer config " ++ space ++ "/" ++ name)), w)
  | none => (.ok d, { w with drains := Table.put w.drains space name d })

/-- Deletes a drain request. -/
def deleteDrain (w : World) (space name : String) : Except TenantError Unit × World :=
  match Table.at? w.drains space name with
  | some _ =>
    (.ok (), { w with
      drains := Table.remove w.drains space name
      deletedDrains := w.deletedDrains ++ [space ++ "/" ++ name] })
  | none => (.error (.notFound ("drainer config " ++ space ++ "/" ++ name)), w)

/-! ## All calls -/

/-- Stores a certificate request unless there is one of its name. -/
def ensureCertConfig (w : World) (c : CertConfig) : World :=
  let space := c.metadata.spaceName
  let name := c.metadata.anyName
  match Table.at? w.certConfigs space name with
  | some _ => w
  | none => { w with certConfigs := Table.put w.certConfigs space name c }

/-- The answer to a call and the world after it. -/
def perform (w : World) : (c : Call) → Except c.Failure c.Answer × World
  | .cloud account group c =>
    let (r, s) := (w.subscription account).answer group c
    (r, w.setSubscription account s)
  | .openAccount _ => (.ok w.cluster.id, w)
  | .openTenant _ _ => (.ok w.reachable, w)
  | .tenant _ _ c => w.performTenant c
  | .createDrain config => w.createDrain config
  | .listDrains space clusterId =>
    (.ok ((Table.row w.drains space).values.filter (drainsCluster clusterId)), w)
  | .deleteDrain space name => w.deleteDrain space name
  | .findBundle clusterId cert =>
    match Table.at? w.bundles clusterId cert.name with
    | some tls => (.ok tls, w)
    | none => (.error (.certUnavailable (.missingBundle (clusterId ++ "-" ++ cert.name))), w)
  | .getMachinePool space name => (.ok (Table.at? w.machinePools space name), w)
  | .getCluster space name => (.ok (Table.at? w.clusters space name), w)
  | .getAzureConfig space name => (.ok (Table.at? w.configs space name), w)
  | .ensureCertConfig config => (.ok (), w.ensureCertConfig config)
  | .saveStatus target handler values =>
    (.ok (), { w with saves := w.saves ++ [⟨target, handler, values⟩] })
  | .mastersTemplate config version => (.ok ⟨w.template, mastersParameters config version⟩, w)
  | .poolTemplate pool machinePool version =>
    (.ok ⟨w.template, poolParameters pool machinePool version⟩, w)

/-- Writes a call down. -/
def record (w : World) (c : Call) : World :=
  let (method, target) := methodOf c
  { w with log := w.log ++ [method ++ ":" ++ target] }

/-- The answer to a call that is written down, or the failure that was asked for. -/
def answer (c : Call) (w : World) : Except c.Failure c.Answer × World :=
  match c with
  | .cloud account group k => w.perform (.cloud account group k)
  | c =>
    let w := w.record c
    match (w.failureFor c).bind (asFailure c) with
    | some e => (.error e, w)
    | none => w.perform c

/-- How a world answers programs. -/
def handler : Handler World where
  answer := answer
  note event w := { w with metrics := w.metrics.record event }

end World

end TenantFleet
