/-
# Kubeconfigs

A kubeconfig lists clusters, users and contexts that pair them, and names the context that counts.
Certificates and keys are given in it or in files beside it.

* `Kubeconfig.chosen?` : the cluster and the user of the context that counts.
-/
import TenantFleet.Data.Dict
import TenantFleet.Host
import TenantFleet.Text.Base64

namespace TenantFleet

/-! ## Entries -/

/-- Where a certificate or a key is kept. -/
structure Material where
  /-- The certificate or key itself, in base 64. -/
  data : Option String := none
  /-- The path of a file with it. -/
  file : Option String := none
  deriving DecidableEq, Inhabited

/-- Whether a certificate or a key is kept anywhere. -/
def Material.isGiven (m : Material) : Bool := m.data.isSome || m.file.isSome

/-- The bytes of a certificate or a key. What is given in place counts before a file. -/
def Material.bytes? (m : Material) (h : Host) : Option (List UInt8) :=
  match m.data with
  | some data => Base64.decode? data
  | none => m.file.bind h.file?

/-- Where the API of a cluster is. -/
structure ClusterEntry where
  /-- The address. -/
  server : Option String := none
  /-- The certificates that the server's is checked with. -/
  authority : Material := {}
  /-- The server that requests go through. -/
  proxy : Option String := none
  /-- The name that the server's certificate has to be for. -/
  serverName : Option String := none
  deriving DecidableEq, Inhabited

/-- A service that tells who a user is. -/
structure ProviderEntry where
  /-- The name. -/
  name : String
  /-- What is set for it. -/
  config : Dict String
  deriving Inhabited

/-- How a user signs in. -/
structure UserEntry where
  /-- The name. -/
  name : Option String := none
  /-- The password. -/
  password : Option String := none
  /-- A token. -/
  token : Option String := none
  /-- The path of a file with a token. -/
  tokenFile : Option String := none
  /-- The certificate of the user. -/
  certificate : Material := {}
  /-- The key of the certificate. -/
  key : Material := {}
  /-- Another user to act for. -/
  actsAs : Option String := none
  /-- The groups of that user. -/
  actsInGroups : List String := []
  /-- The service to ask. -/
  provider : Option ProviderEntry := none
  /-- Whether a program has to be asked. -/
  asksProgram : Bool := false
  deriving Inhabited

/-- Which user works on which cluster. -/
structure ContextEntry where
  /-- The cluster. -/
  cluster : String
  /-- The user, if there is one. -/
  user : Option String := none
  deriving DecidableEq, Inhabited

/-! ## The whole -/

/-- A kubeconfig. An entry without content has a name only. -/
structure Kubeconfig where
  /-- The clusters by name. -/
  clusters : List (String × Option ClusterEntry) := []
  /-- The users by name. -/
  users : List (String × Option UserEntry) := []
  /-- The contexts by name. -/
  contexts : List (String × Option ContextEntry) := []
  /-- The name of the context that counts. -/
  current : Option String := none
  deriving Inhabited

namespace Kubeconfig

/-- The content of the first entry of a name. -/
def named? {α : Type} (l : List (String × Option α)) (name : String) : Option α :=
  (l.lookup name).join

/-- The cluster and the user of the context that counts; a user without an entry has nothing to
show. -/
def chosen? (k : Kubeconfig) : Option (ClusterEntry × UserEntry) := do
  let context ← named? k.contexts (← k.current)
  let cluster ← named? k.clusters context.cluster
  return (cluster, (context.user.bind (named? k.users)).getD {})

end Kubeconfig

end TenantFleet
