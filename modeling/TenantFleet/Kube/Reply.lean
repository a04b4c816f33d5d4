/-
# Replies of a cluster's API

A request that is refused is answered by a status that says why; any other text stands for itself. A
request that is fulfilled is answered by an object, a list of objects or a status.
-/
import TenantFleet.Http.Exchange
import TenantFleet.Json.Parser
import TenantFleet.Error
import TenantFleet.Object.Metadata

namespace TenantFleet

open Http

/-! ## Statuses -/

/-- What the API says about a request. -/
structure KubeStatus where
  /-- The code; zero when not said. -/
  code : Nat := 0
  /-- Why, for machines. -/
  reason : String := ""
  /-- Why, for people. -/
  message : String := ""
  deriving DecidableEq, Inhabited

namespace KubeStatus

/-- A cause of a status. -/
def readCause : Reader Unit := fun x => do
  let names := ["reason", "message", "field"]
  let ms ← Reader.members names x
  names.forM fun n => (Reader.defaulted Reader.text "" ms n).map fun _ => ()

/-- The details of a status. -/
def readDetails : Reader Unit := fun x => do
  let ms ← Reader.members ["name", "group", "kind", "uid", "causes", "retryAfterSeconds"] x
  ["name", "group", "kind", "uid"].forM fun n =>
  (Reader.defaulted Reader.text "" ms n).map fun _ => ()
  let _ ← Reader.defaulted (Reader.list readCause) [] ms "causes"
  let _ ← Reader.defaulted (Reader.natBits 32) 0 ms "retryAfterSeconds"

/-- The metadata of a list. -/
def readListMetadata : Reader Unit := fun x => do
  let ms ← Reader.lastMembers x
  Reader.check Reader.text ms "continue"
  Reader.check Reader.int64 ms "remainingItemCount"
  Reader.check Reader.text ms "resourceVersion"
  Reader.check Reader.text ms "selfLink"

/-- Whether the request was fulfilled, in a word. -/
def readSummary : Reader Unit
  | .str "Success" | .str "Failure" => some ()
  | _ => none

/-- Reads a status. -/
def read : Reader KubeStatus := fun x => do
  let ms ← Reader.members ["status", "code", "message", "metadata", "reason", "details"] x
  Reader.check readSummary ms "status"
  Reader.check readListMetadata ms "metadata"
  Reader.check readDetails ms "details"
  return {
    code := ← Reader.defaulted (Reader.natBits 16) 0 ms "code"
    reason := ← Reader.defaulted Reader.text "" ms "reason"
    message := ← Reader.defaulted Reader.text "" ms "message" }

/-- The failure that a status stands for. -/
def error (s : KubeStatus) : KubeError := .status s.code s.reason s.message

end KubeStatus

/-! ## Failures -/

namespace KubeError

/-- The reason of a refusal that does not give one. -/
def unexplained : String := "Failed to parse error data"

/-- The failure that a reply reports. -/
def ofReply (r : Reply) : KubeError :=
  match (Json.Written.parse? r.text).bind KubeStatus.read with
  | some s => s.error
  | none => .status r.status unexplained r.text

/-- The reasons with a meaning of their own. -/
def knownReasons : List String := [
  "BadRequest", "Unauthorized", "Forbidden", "NotFound", "AlreadyExists", "Conflict", "Gone",
  "Invalid", "ServerTimeout", "Timeout", "TooManyRequests", "MethodNotAllowed", "NotAcceptable",
  "RequestEntityTooLarge", "UnsupportedMediaType", "InternalError", "Expired",
  "ServiceUnavailable", "StoreReadError"]

/-- Whether a failure says that the object does not exist: by its reason, or by its code when the
reason has no meaning of its own. -/
def saysMissing : KubeError → Bool
  | .status code reason _ => reason = "NotFound" || (code = 404 && reason ∉ knownReasons)
  | _ => false

end KubeError

/-! ## Objects -/

/-- The value in the text of a reply. -/
def kubeValue {α : Type} (read : Reader α) (r : Reply) : Except KubeError α :=
  if r.failure then .error (.ofReply r)
  else
    match (Json.Written.parse? r.text).bind read with
    | some a => .ok a
    | none => .error .undecodable

/-- Reads a list of objects. -/
def readObjects {α : Type} (read : Reader α) : Reader (List α) := fun x => do
  let ms ← Reader.namedMembers ["apiVersion", "kind", "metadata", "items"] x
  let _ ← Reader.defaulted KubeStatus.readListMetadata () ms "metadata"
  Reader.check Reader.text ms "apiVersion"
  Reader.check Reader.text ms "kind"
  (Reader.required (Reader.nullable (Reader.list read)) ms "items").map (·.getD [])

/-- Reads what a deletion is answered with: a status, or the object as it goes. -/
def readDeleted {α : Type} (read : Reader α) : Reader Unit := fun x =>
  if (x.value?.bind (Json.get? "kind")) = some (.str "Status") then
    (KubeStatus.read x).map fun _ => ()
  else (read x).map fun _ => ()

end TenantFleet
