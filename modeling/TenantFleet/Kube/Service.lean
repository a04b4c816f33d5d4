/-
# The API of a cluster

How the objects of a cluster are read, listed, created, changed and deleted through its API.

* `KubeService.find?` : an object, or nothing when it does not exist;
* `KubeService.patchStatus` : a change of an object's status.
-/
import TenantFleet.Kube.Address
import TenantFleet.Kube.Reply

namespace TenantFleet

open Http

/-- The API of a cluster. -/
structure KubeService where
  /-- Where the API is. -/
  base : String
  /-- What shows who sends a request. -/
  authorization : Option String := none
  deriving DecidableEq, Inhabited

namespace KubeService

variable {α : Type}

/-! ## Requests -/

/-- The request to a path, which must have the form of one. -/
def located (s : KubeService) (path : String) (r : String → Request) : Except KubeError Request :=
  if UrlPath.valid path then
    .ok { r (withoutSlashes s.base ++ path) with authorization := s.authorization }
  else .error .badRequest

/-- Sends a request to a path; the answer is made of the reply. -/
def send (s : KubeService) (path : Except KubeError String) (r : String → Request)
    (answer : Reply → Except KubeError α) : Exchange KubeError α :=
  match path.bind fun p => s.located p r with
  | .ok request => .send request fun reply => .done (answer reply)
  | .error e => .fail e

/-! ## Objects -/

/-- An object. -/
def get (s : KubeService) (read : Reader α) (k : ObjectKind) (space : Option String)
    (name : String) : Exchange KubeError α :=
  s.send (k.objectPath space name) .get (kubeValue read)

/-- The value of a reply, or nothing when the reply says that the object does not exist. -/
def present? (read : Reader α) (r : Reply) : Except KubeError (Option α) :=
  match kubeValue read r with
  | .ok a => .ok (some a)
  | .error e => if e.saysMissing then .ok none else .error e

/-- An object, or nothing when it does not exist. -/
def find? (s : KubeService) (read : Reader α) (k : ObjectKind) (space : Option String)
    (name : String) : Exchange KubeError (Option α) :=
  s.send (k.objectPath space name) .get (present? read)

/-- The objects of a kind with the labels of a selector. -/
def list (s : KubeService) (read : Reader α) (k : ObjectKind) (space selector : Option String) :
    Exchange KubeError (List α) :=
  s.send (.ok (k.collectionPath space))
    (fun url => { Request.get url with query := (selector.map (("labelSelector", ·))).toList })
    (kubeValue (readObjects read))

/-- Creates an object. -/
def create (s : KubeService) (read : Reader α) (k : ObjectKind) (space : Option String)
    (document : Json) : Exchange KubeError α :=
  s.send (.ok (k.collectionPath space)) (fun url => .post url (some (.json document)))
    (kubeValue read)

/-- Creates an object unless there is one of its name. -/
def ensure (s : KubeService) (read : Reader α) (k : ObjectKind) (space : Option String)
    (document : Json) : Exchange KubeError Unit :=
  s.send (.ok (k.collectionPath space)) (fun url => .post url (some (.json document))) fun reply =>
    match kubeValue read reply with
    | .ok _ => .ok ()
    | .error e => if e.hasCode 409 then .ok () else .error e

/-- Deletes an object. -/
def delete (s : KubeService) (read : Reader α) (k : ObjectKind) (space : Option String)
    (name : String) : Exchange KubeError Unit :=
  s.send (k.objectPath space name)
    (fun url => { Request.delete url with body := some (.json (.obj [])) })
    (kubeValue (readDeleted read))

/-- Changes an object by a patch that is merged into it. -/
def patch (s : KubeService) (read : Reader α) (k : ObjectKind) (space : Option String)
    (name : String) (change : Json) : Exchange KubeError α :=
  s.send (k.objectPath space name)
    (fun url => { method := .patch, url := url, body := some (.mergePatch change) })
    (kubeValue read)

/-- Changes the status of an object by a patch that is merged into it. -/
def patchStatus (s : KubeService) (read : Reader α) (k : ObjectKind) (space : Option String)
    (name : String) (change : Json) : Exchange KubeError α :=
  s.send ((k.objectPath space name).map (· ++ "/status"))
    (fun url => { method := .patch, url := url, body := some (.mergePatch change) })
    (kubeValue read)

/-! ## The API itself -/

/-- What the API says about its version. -/
def readVersion : Reader Unit := fun x => do
  let ms ← Reader.lastMembers x
  ["buildDate", "compiler", "gitCommit", "gitTreeState", "gitVersion", "goVersion",
    "major", "minor", "platform"].forM (Reader.check Reader.text ms)

/-- Whether the API answers. -/
def probe (s : KubeService) : Exchange KubeError Unit :=
  s.send (.ok "/version") .get (kubeValue readVersion)

end KubeService

end TenantFleet
