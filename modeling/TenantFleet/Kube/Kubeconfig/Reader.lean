/-
# Reading kubeconfigs

A kubeconfig is written in YAML. What is not used is read all the same: a kubeconfig with a setting
of the wrong kind is not well formed. Keys that are not known are passed over.

* `Kubeconfig.parse?` : the kubeconfig of a text.
-/
import TenantFleet.Kube.Kubeconfig.Basic
import TenantFleet.Yaml.Reader

namespace TenantFleet.Kubeconfig

open Yaml.Reader (text bool word any texts record required optional present? check)

/-! ## Parts -/

/-- Extensions, which are not used. -/
def readExtensions : Yaml.Reader (List Unit) :=
  Yaml.Reader.list fun s n => do
    let r ← record ["name", "extension"] s n
    let _ ← required text r "name"
    required any r "extension"

/-- A certificate or a key. -/
def readMaterial (r : Yaml.Reader.Record) (key : String) : Yaml.Reading Material := do
  return {
    data := ← optional text r (key ++ "-data")
    file := ← optional text r key }

/-- The keys of a certificate or a key. -/
def materialKeys (key : String) : List String := [key, key ++ "-data"]

/-- Named entries whose content stands under a key. -/
def readNamed {α : Type} (read : Yaml.Reader α) (key : String) :
    Yaml.Reader (List (String × Option α)) :=
  Yaml.Reader.list fun s n => do
    let r ← record ["name", key] s n
    return (← required text r "name", ← optional read r key)

/-! ## Entries -/

/-- Where the API of a cluster is. -/
def readCluster : Yaml.Reader ClusterEntry := fun s n => do
  let r ← record (["server", "insecure-skip-tls-verify", "proxy-url", "disable-compression",
    "tls-server-name", "extensions"] ++ materialKeys "certificate-authority") s n
  check bool r "insecure-skip-tls-verify"
  check bool r "disable-compression"
  check readExtensions r "extensions"
  return {
    server := ← optional text r "server"
    authority := ← readMaterial r "certificate-authority"
    proxy := ← optional text r "proxy-url"
    serverName := ← optional text r "tls-server-name" }

/-- A service that tells who a user is. Its settings may be missing, but not null. -/
def readProvider : Yaml.Reader ProviderEntry := fun s n => do
  let r ← record ["name", "config"] s n
  return ⟨← required text r "name", (← present? texts r "config").getD .empty⟩

/-- When a program may talk to whoever started it. -/
def interactiveModes : List String := ["Never", "IfAvailable", "Always"]

/-- A program that tells who a user is. -/
def readProgram : Yaml.Reader Unit := fun s n => do
  let r ← record ["apiVersion", "command", "args", "env", "interactiveMode",
      "provideClusterInfo"] s n
  check text r "apiVersion"
  check text r "command"
  check (Yaml.Reader.list text) r "args"
  check (Yaml.Reader.list texts) r "env"
  check (word interactiveModes) r "interactiveMode"
  let _ ← present? bool r "provideClusterInfo"

/-- How a user signs in. -/
def readUser : Yaml.Reader UserEntry := fun s n => do
  let r ← record (["username", "password", "token", "tokenFile", "as", "as-groups", "auth-provider",
    "exec"] ++ materialKeys "client-certificate" ++ materialKeys "client-key") s n
  return {
    name := ← optional text r "username"
    password := ← optional text r "password"
    token := ← optional text r "token"
    tokenFile := ← optional text r "tokenFile"
    certificate := ← readMaterial r "client-certificate"
    key := ← readMaterial r "client-key"
    actsAs := ← optional text r "as"
    actsInGroups := (← optional (Yaml.Reader.list text) r "as-groups").getD []
    provider := ← optional readProvider r "auth-provider"
    asksProgram := (← optional readProgram r "exec").isSome }

/-- Which user works on which cluster. -/
def readContext : Yaml.Reader ContextEntry := fun s n => do
  let r ← record ["cluster", "user", "namespace", "extensions"] s n
  check text r "namespace"
  check readExtensions r "extensions"
  return {
    cluster := ← required text r "cluster"
    user := ← optional text r "user" }

/-! ## The whole -/

/-- Settings of programs for people, which are not used. -/
def readPreferences : Yaml.Reader Unit := fun s n => do
  let r ← record ["colors", "extensions"] s n
  check bool r "colors"
  check readExtensions r "extensions"

/-- A kubeconfig. -/
def read : Yaml.Reader Kubeconfig := fun s n => do
  let r ← record ["preferences", "clusters", "users", "contexts", "current-context", "extensions",
    "kind", "apiVersion"] s n
  check readPreferences r "preferences"
  check readExtensions r "extensions"
  check text r "kind"
  check text r "apiVersion"
  return {
    clusters := (← optional (readNamed readCluster "cluster") r "clusters").getD []
    users := (← optional (readNamed readUser "user") r "users").getD []
    contexts := (← optional (readNamed readContext "context") r "contexts").getD []
    current := ← optional text r "current-context" }

/-- The kubeconfig of a text. -/
def parse? (s : String) : Option Kubeconfig := do
  (← Yaml.Document.parse? s).read? read

end TenantFleet.Kubeconfig
