/-
# The service that manages resources

How requests to a subscription are put to the service that manages its resources: reads are answered
by documents or pages of them, and changes by operations whose end can be waited for.

* `CloudService.listFrom` : all items of a list, page by page;
* `CloudService.wait` : waits for the end of an operation;
* `CloudService.Errand` and `CloudService.perform` : any request.
-/
import TenantFleet.Call.Cloud
import TenantFleet.Cloud.Address
import TenantFleet.Cloud.Reply
import TenantFleet.Settings.Credentials
import TenantFleet.Time.Span

namespace TenantFleet

open Http

/-- How long the end of an operation is waited for. -/
structure Patience where
  /-- The time in milliseconds. -/
  milliseconds : Nat := 600000
  /-- How often to ask again in that time. -/
  repeats : Nat := 60
  deriving DecidableEq, Inhabited

/-- The service that manages the resources of a subscription. -/
structure CloudService where
  /-- Where the service is. -/
  base : String
  /-- The subscription. -/
  subscriptionId : String
  /-- How long the end of an operation is waited for. -/
  patience : Patience := {}
  deriving DecidableEq, Inhabited

namespace CloudService

/-- The service of a subscription in a cloud. -/
def of (credentials : Credentials) (cloud : CloudAddresses) : CloudService :=
  { base := withoutSlashes cloud.manager, subscriptionId := credentials.subscriptionId }

/-- A description that shows where the service is and for whom. -/
def describe (s : CloudService) : String :=
  "AzureClient \x7b base_url: " ++ Text.quoted s.base ++
    ", subscription_id: " ++ Text.quoted s.subscriptionId ++ ", .. \x7d"

/-- The request with the address of a resource of a group. -/
def located (s : CloudService) (group : String) (a : ResourceAddress)
    (r : String → Request) : Request :=
  { r (s.base ++ "/subscriptions/" ++ s.subscriptionId ++ "/resourceGroups/" ++ group ++
      "/providers/" ++ a.path) with query := [("api-version", a.version)] }

/-! ## Reading -/

/-- The value that a request is answered with. -/
def fetch {α : Type} (read : Reader α) (what : String) (r : Request) : Exchange AzureError α :=
  .send r fun reply => .done (reply.document read what)

section Lists

variable {α ω : Type} (link : Link AzureError ω) (item : Reader α) (what : String)

/-- Asks for a page, and puts its items behind those at hand. The list is read on from the page that
this one names, if it names one, and else is at its end; a page that cannot be had ends it too. -/
def turn : List α × Request → StateM ω (List α × Request ⊕ Except AzureError (List α))
  | (items, r) => fun w =>
    match (fetch (Page.read item) what r).run link w with
    | (.error e, w) => (.inr (.error e), w)
    | (.ok page, w) =>
      match page.next with
      | none => (.inr (.ok (items ++ page.items)), w)
      | some url => (.inl (items ++ page.items, .get url), w)

/-- Reads the pages of a list, from the one that a request is answered with on, and puts their items
behind those at hand. There may be any number of pages; a list that never ends is read for ever. -/
def collect (items : List α) (r : Request) : StateM ω (Except AzureError (List α)) :=
  repeatM (turn link item what) (items, r)

/-- All items of a list whose first page a request is answered with, in order. -/
def listFrom (r : Request) (w : ω) : Except AzureError (List α) × ω := collect link item what [] r w

end Lists

/-! ## Changing -/

/-- The operation that a request starts. -/
def start (what : String) (r : Request) : Exchange AzureError Operation :=
  .send r fun reply => .done (Operation.ofReply what reply)

/-- Whether an operation has ended; a bad end is a failure. -/
def ended (what : String) : PollTarget → Exchange AzureError Bool
  | .status url =>
    (fetch StatusDocument.read what (.get url)).bind fun d =>
      match d.progress with
      | .running => .ok false
      | .succeeded => .ok true
      | .failed reason => .fail (.operationFailed (what ++ ": " ++ reason))
  | .location url =>
    .send (.get url) fun reply =>
      if reply.status = 202 then .ok false
      else .done ((reply.checked what).map fun _ => true)

/-- The failure of an operation that did not end in time. -/
def timedOut (what : String) (milliseconds : Nat) : AzureError :=
  .operationFailed (what ++ ": timed out after " ++ Span.text milliseconds)

/-- Asks for the end of an operation, and again up to `repeats` times while it goes on. -/
def poll (what : String) (target : PollTarget) (milliseconds : Nat) :
    (repeats : Nat) → Exchange AzureError Unit
  | 0 =>
    (ended what target).bind fun finished =>
      if finished then .ok () else .fail (timedOut what milliseconds)
  | repeats + 1 =>
    (ended what target).bind fun finished =>
      if finished then .ok () else poll what target milliseconds repeats

/-- Waits for the end of an operation. -/
def wait (p : Patience) (o : Operation) : Exchange AzureError Unit :=
  match o.poll with
  | none => .ok ()
  | some target => poll o.description target p.milliseconds p.repeats

/-! ## Requests -/

/-- What is done for a request of a pass: an exchange, or the reading of a list. How many pages a
list has only the server knows, so no exchange reads every list to its end. -/
inductive Errand : Type → Type 1
  /-- An exchange. -/
  | exchange {α : Type} (x : Exchange AzureError α) : Errand α
  /-- A list is read whose first page a request is answered with. -/
  | list {α : Type} (item : Reader α) (what : String) (first : Request) : Errand (List α)

namespace Errand

variable {α ω : Type}

/-- The errand that begins with a request and goes on with the reply. -/
abbrev send (request : Request) (resume : Reply → Exchange AzureError α) : Errand α :=
  .exchange (.send request resume)

/-- The result of an errand over a link to servers, and the state after it. -/
def run (link : Link AzureError ω) : Errand α → ω → Except AzureError α × ω
  | exchange x, w => x.run link w
  | list item what first, w => listFrom link item what first w

end Errand

section

variable (s : CloudService) (group : String)

/-- Reads a resource. -/
def readAt {α : Type} (read : Reader α) (a : ResourceAddress) (what : String) : Errand α :=
  .exchange (fetch read what (s.located group a .get))

/-- Reads a list of resources. -/
def listAt {α : Type} (item : Reader α) (a : ResourceAddress) (what : String) : Errand (List α) :=
  .list item what (s.located group a .get)

/-- Stores a resource. -/
def putAt (a : ResourceAddress) (document : Json) (what : String) : Errand Operation :=
  .exchange (start what (s.located group a fun url => .put url document))

/-- Hands a request to a resource. -/
def postAt (a : ResourceAddress) (document : Option Json) (what : String) : Errand Operation :=
  .exchange (start what (s.located group a fun url => .post url (document.map .json)))

/-- Deletes a resource. -/
def deleteAt (a : ResourceAddress) (what : String) : Errand Operation :=
  .exchange (start what (s.located group a .delete))

end

/-- Stores a record and gives what is stored then; a reply that cannot be read counts as lost. -/
def putRecord (s : CloudService) (group zone name : String)
    (value : RecordSet) : Errand RecordSet :=
  let what := "update A record " ++ name ++ "." ++ zone
  .send (s.located group (.record zone name) fun url => .put url value.toJson) fun reply =>
    match reply.document RecordSet.read what with
    | .error .undecodable => .fail .transport
    | r => .done r

/-- A request of a pass about the resources of a group. -/
def perform (s : CloudService) (group : String) : (c : CloudCall) → Errand c.Answer
  | .wait operation => .exchange (wait s.patience operation)
  | .getScaleSet name => s.readAt group ScaleSet.read (.scaleSet name) ("get vmss " ++ name)
  | .putScaleSet name value =>
    s.putAt group (.scaleSet name) value.toJson ("update vmss " ++ name)
  | .updateInstances scaleSet ids =>
    s.postAt group ((ResourceAddress.scaleSet scaleSet).part "manualupgrade")
      (some (instanceIdsJson ids))
      ("update instances " ++ Text.quotedList ids ++ " of vmss " ++ scaleSet)
  | .deleteInstances scaleSet ids =>
    s.postAt group ((ResourceAddress.scaleSet scaleSet).part "delete") (some (instanceIdsJson ids))
      ("delete instances " ++ Text.quotedList ids ++ " of vmss " ++ scaleSet)
  | .listInstances scaleSet =>
    s.listAt group Instance.read (.instances scaleSet) ("list instances of vmss " ++ scaleSet)
  | .instanceView scaleSet inst =>
    s.readAt group InstanceView.read ((ResourceAddress.inst scaleSet inst).part "instanceView")
      ("get instance view of " ++ scaleSet ++ "/" ++ inst)
  | .putInstance scaleSet inst value =>
    s.putAt group (.inst scaleSet inst) value.toJson
      ("update instance " ++ scaleSet ++ "/" ++ inst)
  | .start scaleSet inst =>
    s.postAt group ((ResourceAddress.inst scaleSet inst).part "start") none
      ("start instance " ++ scaleSet ++ "/" ++ inst)
  | .deallocate scaleSet inst =>
    s.postAt group ((ResourceAddress.inst scaleSet inst).part "deallocate") none
      ("deallocate instance " ++ scaleSet ++ "/" ++ inst)
  | .reimage scaleSet inst =>
    s.postAt group ((ResourceAddress.inst scaleSet inst).part "reimage") none
      ("reimage instance " ++ scaleSet ++ "/" ++ inst)
  | .runCommand scaleSet inst command =>
    s.postAt group ((ResourceAddress.inst scaleSet inst).part "runCommand") (some command.toJson)
      ("run " ++ command.commandId ++ " on " ++ scaleSet ++ "/" ++ inst)
  | .getDisk name => s.readAt group Disk.read (.disk name) ("get disk " ++ name)
  | .listDisks => s.listAt group Disk.read .disks "list disks"
  | .putDisk name value =>
    s.putAt group (.disk name) value.toJson ("create or update disk " ++ name)
  | .deleteDisk name => s.deleteAt group (.disk name) ("delete disk " ++ name)
  | .listSnapshots => s.listAt group Snapshot.read .snapshots "list snapshots"
  | .putSnapshot name value =>
    s.putAt group (.snapshot name) value.toJson ("create or update snapshot " ++ name)
  | .deleteSnapshot name => s.deleteAt group (.snapshot name) ("delete snapshot " ++ name)
  | .getRecord zone name =>
    s.readAt group RecordSet.read (.record zone name) ("get A record " ++ name ++ "." ++ zone)
  | .putRecord zone name value => s.putRecord group zone name value
  | .getInterface scaleSet inst name =>
    s.readAt group NetworkInterface.read (.interface scaleSet inst name)
      ("get nic " ++ name ++ " of " ++ scaleSet ++ "/" ++ inst)
  | .getNetwork name => s.readAt group VirtualNetwork.read (.virtualNetwork name)
    ("get vnet " ++ name)
  | .putPeering network name value =>
    s.putAt group (.peering network name) value.toJson
      ("create or update peering " ++ network ++ "/" ++ name)
  | .getGateway name => s.readAt group Gateway.read (.gateway name) ("get vpn gateway " ++ name)
  | .deleteGateway name => s.deleteAt group (.gateway name) ("delete vpn gateway " ++ name)
  | .listConnections => s.listAt group GatewayConnection.read .connections
    "list gateway connections"
  | .deleteConnection name =>
    s.deleteAt group (.connection name) ("delete gateway connection " ++ name)
  | .getPublicIp name => s.readAt group PublicIp.read (.publicIp name) ("get public ip " ++ name)
  | .deletePublicIp name => s.deleteAt group (.publicIp name) ("delete public ip " ++ name)
  | .getDeployment name => s.readAt group Deployment.read (.deployment name)
    ("get deployment " ++ name)
  | .putDeployment name value =>
    s.putAt group (.deployment name) value.toJson ("create or update deployment " ++ name)

end CloudService

end TenantFleet
