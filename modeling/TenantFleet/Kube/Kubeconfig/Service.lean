/-
# The API that a kubeconfig leads to

A kubeconfig leads to the API of a cluster, or it is not well formed, names something that it does
not hold, or asks for a way to connect that is not at hand. Of several ways to sign in one counts: a
service that tells who the user is, then a password, a token, a token in a file, and a program.

* `Kubeconfig.service` : the API that a kubeconfig leads to;
* `Kubeconfig.serviceOf` : the same for the text of one.
-/
import TenantFleet.Certificate.Pem
import TenantFleet.Certificate.Root
import TenantFleet.Kube.Kubeconfig.Reader
import TenantFleet.Kube.Service
import TenantFleet.Net.ServerName
import TenantFleet.Time.Iso

namespace TenantFleet

/-! ## Signing in -/

namespace ProviderEntry

/-- How long a token has to last to be used, in seconds. -/
def minLife : Nat := 60

/-- The token that was kept from an earlier sign-in, if it lasts long enough. -/
def kept? (p : ProviderEntry) (now : Timestamp) : Option String := do
  let token ← p.config.get? "access-token"
  let expiry ← Timestamp.parseIso? (← p.config.get? "expiry")
  if now.unix + minLife < expiry.unix ∨
    (now.unix + minLife = expiry.unix ∧ now.nanos < expiry.nanos) then
    return token
  else none

/-- The token of a user. Only tokens that are already there count. -/
def token? (p : ProviderEntry) (now : Timestamp) : Option String :=
  match p.name with
  | "oidc" => p.config.get? "id-token"
  | "gcp" => p.config.get? "id-token" <|> p.kept? now
  | _ => none

end ProviderEntry

namespace UserEntry

/-- What goes with a request that shows a token. -/
def bearer (token : String) : String := "Bearer " ++ token

/-- What goes with a request that shows a password. -/
def basic (name password : String) : String := "Basic " ++ Base64.encode (name ++ ":" ++ password)

/-- What a user shows with every request, if anything. -/
def authorization (u : UserEntry) (h : Host) : Except KubeconfigFault (Option String) :=
  let shown (token : Option String) : Except KubeconfigFault (Option String) :=
    match token with
    | some t => .ok (some (bearer t))
    | none => .error .unusable
  match u.provider, u.name, u.password, u.token, u.tokenFile with
  | some p, _, _, _, _ => shown (p.token? h.now)
  | none, some name, some password, _, _ => .ok (some (basic name password))
  | none, _, _, some token, _ => .ok (some (bearer token))
  | none, _, _, none, some path => shown (h.text? path)
  | none, _, _, none, none => if u.asksProgram then .error .unusable else .ok none

/-- Whether a text can go with a request as it is. -/
def canBeShown (s : String) : Bool := s.toList.all fun c =>
    c = '\t' || (0x20 ≤ c.toNat && c.toNat ≠ 0x7F)

/-- Whether requests can be sent for a user. A certificate of the user's own cannot be shown;
without its key it does not count. -/
def usable (u : UserEntry) (h : Host) : Bool :=
  ((u.certificate.bytes? h).isNone || (u.key.bytes? h).isNone) && u.actsAs.all canBeShown &&
    u.actsInGroups.all canBeShown

end UserEntry

/-! ## Clusters -/

namespace ClusterEntry

/-- The server that requests have to go through, if there is one. -/
def proxy? (c : ClusterEntry) : Option String := c.proxy.filter (· ≠ "")

/-- The certificates that the server's is checked with, if any are given. -/
def authorities (c : ClusterEntry) (h : Host) : Except KubeconfigFault (List (List UInt8)) :=
  if c.authority.isGiven then
    match (c.authority.bytes? h).bind Pem.certificates? with
    | some certificates => .ok certificates
    | none => .error .unloadable
  else .ok []

/-- The address of the API. -/
def address (c : ClusterEntry) : Except KubeconfigFault String :=
  match c.server.filter Url.valid with
  | some server => if c.proxy?.all Url.valid then .ok server else .error .unloadable
  | none => .error .unloadable

/-- Whether requests can be sent to a cluster whose certificate is checked with the given ones. They
cannot go through another server. -/
def usable (c : ClusterEntry) (authorities : List (List UInt8)) : Bool :=
  c.proxy?.isNone && authorities.all Certificate.isRoot && c.serverName.all ServerName.valid

end ClusterEntry

/-! ## Kubeconfigs -/

namespace Kubeconfig

/-- The API that a kubeconfig leads to. -/
def service (k : Kubeconfig) (h : Host) : Except KubeconfigFault KubeService :=
  match k.chosen? with
  | none => .error .unloadable
  | some (cluster, user) => do
    let server ← cluster.address
    let authorities ← cluster.authorities h
    if cluster.usable authorities && user.usable h then return ⟨server, ← user.authorization h⟩
    else .error .unusable

/-- The API that the kubeconfig in a text leads to. -/
def serviceOf (s : String) (h : Host) : Except KubeconfigFault KubeService :=
  match parse? s with
  | some k => k.service h
  | none => .error .unparsable

end Kubeconfig

end TenantFleet
