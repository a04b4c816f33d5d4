/-
# Template deployments, pages and operations

A deployment applies a template with parameters to a resource group. Long lists come in pages that
name the next one. A change that takes its time answers with an operation that can be asked for its
end.
-/
import TenantFleet.Json.Reader
import TenantFleet.Resource.Disk

namespace TenantFleet

/-! ## Deployments -/

/-- A deployment of a template. -/
structure Deployment where
  /-- The name. -/
  name : Option String := none
  /-- Whether resources outside of the template stay or go. -/
  mode : String := "Incremental"
  /-- The template. -/
  template : Option Json := none
  /-- The parameters. -/
  parameters : Option Json := none
  /-- The reported provisioning state. -/
  provisioningState : Option String := none
  deriving DecidableEq, Inhabited

namespace Deployment

/-- The properties of a deployment. -/
def readProperties : Reader (String × Option Json × Option Json × Option String) := fun x => do
  let ms ← Reader.members ["mode", "template", "parameters", "provisioningState"] x
  return (← Reader.defaulted Reader.text "Incremental" ms "mode",
    ← Reader.optional Reader.any ms "template",
    ← Reader.optional Reader.any ms "parameters",
    ← Reader.optional Reader.text ms "provisioningState")

/-- Reads a deployment. -/
def read : Reader Deployment := fun x => do
  let ms ← Reader.members ["name", "properties"] x
  let name ← Reader.optional Reader.text ms "name"
  let (mode, template, parameters, state) ← Reader.required readProperties ms "properties"
  return ⟨name, mode, template, parameters, state⟩

/-- The document of a deployment, without what the cloud reports. -/
def toJson (d : Deployment) : Json :=
  .record [
    ("name", d.name.map .str),
    ("properties", some (.record [
      ("mode", some (.str d.mode)),
      ("template", d.template),
      ("parameters", d.parameters)]))]

/-- The deployment that adds a template to what is there. -/
def incremental (template parameters : Json) : Deployment :=
  { template := some template, parameters := some parameters }

/-- The provisioning state, empty when unknown. -/
def state (d : Deployment) : String := d.provisioningState.getD ""

/-- Whether the deployment succeeded. -/
def succeeded (d : Deployment) : Bool := d.state = provisioningSucceeded

/-- Whether the deployment failed or was called off. -/
def failed (d : Deployment) : Bool :=
  d.state = provisioningFailed || d.state = provisioningCanceled

end Deployment

/-! ## Pages -/

/-- A page of a list. -/
structure Page (α : Type) where
  /-- The items on this page. -/
  items : List α := []
  /-- The address of the next page. -/
  next : Option String := none
  deriving DecidableEq

namespace Page

/-- Reads a page of items. -/
def read {α : Type} (item : Reader α) : Reader (Page α) := fun x => do
  let ms ← Reader.members ["value", "nextLink"] x
  return {
    items := ← Reader.defaulted (Reader.list item) [] ms "value"
    next := ← Reader.optional Reader.text ms "nextLink" }

/-- The document of a page. -/
def toJson {α : Type} (item : α → Json) (p : Page α) : Json :=
  .record [("value", some (.arr (p.items.map item))), ("nextLink", p.next.map .str)]

end Page

/-! ## Operations -/

/-- Where the end of an operation can be asked for. -/
inductive PollTarget
  /-- An address that answers with a status document. -/
  | status (url : String)
  /-- An address that answers 202 until the operation has ended. -/
  | location (url : String)
  deriving DecidableEq, Inhabited

/-- A change that was accepted. -/
structure Operation where
  /-- What is done. -/
  description : String
  /-- Where to ask for its end; nothing when it has ended. -/
  poll : Option PollTarget := none
  deriving DecidableEq, Inhabited

/-- The document of a place to ask. -/
def PollTarget.toJson : PollTarget → Json
  | .status url => .object [("async", .str url)]
  | .location url => .object [("location", .str url)]

namespace Operation

/-- Whether the operation ended when it was accepted. -/
def done (o : Operation) : Bool := o.poll.isNone

/-- The document of an operation. -/
def toJson (o : Operation) : Json :=
  .object [
    ("description", .str o.description),
    ("done", .bool o.done),
    ("poll", (o.poll.map PollTarget.toJson).getD .null)]

end Operation

end TenantFleet
