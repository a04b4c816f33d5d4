/-
# Replies of the cloud

A reply is checked first: one that does not report success is a failure of the class of its status.
Then it is a document, a page of a list, or it says where the end of a change can be asked for.

* `Operation.ofReply` : what the reply to a change says about its end;
* `Progress.ofDocument` : what a status document says.
-/
import TenantFleet.Http.Exchange
import TenantFleet.Json.Parser
import TenantFleet.Json.Printer
import TenantFleet.Error
import TenantFleet.Resource.Deployment

namespace TenantFleet

open Http

/-! ## Documents -/

namespace Http.Reply

/-- The reply if it reports success, else the failure of its status; `what` says what was asked
for. -/
def checked (what : String) (r : Reply) : Except AzureError Reply :=
  if r.success then .ok r else .error (.ofStatus r.status (what ++ ": " ++ r.text))

/-- The value in the text of a reply. -/
def decoded {α : Type} (read : Reader α) (r : Reply) : Except AzureError α :=
  match (Json.Written.parse? r.text).bind read with
  | some a => .ok a
  | none => .error .undecodable

/-- The value in a reply that reports success. -/
def document {α : Type} (read : Reader α) (what : String) (r : Reply) : Except AzureError α :=
  match r.checked what with
  | .ok r => r.decoded read
  | .error e => .error e

@[simp] theorem checked_of_success {what : String} {r : Reply} (h : r.success = true) :
    r.checked what = .ok r := by simp [checked, h]

@[simp] theorem checked_of_not_success {what : String} {r : Reply} (h : r.success = false) :
    r.checked what = .error (.ofStatus r.status (what ++ ": " ++ r.text)) := by simp [checked, h]

variable {α : Type} {read : Reader α}

/-- The value in a reply that reports success is the one in its text. -/
theorem document_of_success {what : String} {r : Reply} (h : r.success = true) :
    r.document read what = r.decoded read := by
  unfold document
  rw [checked_of_success h]

/-- A reply that does not report success is a failure of its status, whatever stands in it. -/
theorem document_of_not_success {what : String} {r : Reply} (h : r.success = false) :
    r.document read what = .error (.ofStatus r.status (what ++ ": " ++ r.text)) := by
  unfold document
  rw [checked_of_not_success h]

end Http.Reply

/-! ## Operations -/

namespace Operation

/-- The header with the address of a status document. -/
def statusHeader : String := "Azure-AsyncOperation"

/-- The header with the address that answers 202 until the end. -/
def locationHeader : String := "Location"

/-- Where the end of an accepted change can be asked for: at the address of a status document if
there is one, else at the place that a reply of status 202 names. -/
def pollOf (r : Reply) : Option PollTarget :=
  match r.header? statusHeader with
  | some url => some (.status url)
  | none => if r.status = 202 then (r.header? locationHeader).map .location else none

/-- The operation that a reply to a change announces. -/
def ofReply (what : String) (r : Reply) : Except AzureError Operation :=
  (r.checked what).map fun r => ⟨what, pollOf r⟩

end Operation

/-! ## Status documents -/

/-- What is known about the end of an operation. -/
inductive Progress
  /-- The operation goes on. -/
  | running
  /-- The operation ended well. -/
  | succeeded
  /-- The operation ended badly. -/
  | failed (reason : String)
  deriving DecidableEq, Inhabited

/-- A document about the end of an operation. -/
structure StatusDocument where
  /-- The status. -/
  status : String
  /-- Why the operation ended badly. -/
  error : Option Json := none
  deriving DecidableEq, Inhabited

namespace StatusDocument

/-- Reads a status document. -/
def read : Reader StatusDocument := fun x => do
  let ms ← Reader.members ["status", "error"] x
  return ⟨← Reader.required Reader.text ms "status", ← Reader.optional Reader.any ms "error"⟩

/-- The status of an operation that ended well. -/
def succeededStatus : String := "Succeeded"

/-- The statuses of an operation that ended badly. -/
def failedStatuses : List String := ["Failed", "Canceled"]

/-- What a status document says; the reason of a bad end is the error in it, else the status. -/
def progress (d : StatusDocument) : Progress :=
  if d.status = succeededStatus then .succeeded
  else if d.status ∈ failedStatuses then
    .failed (match d.error with
      | some e => e.render
      | none => d.status)
  else .running

end StatusDocument

end TenantFleet
