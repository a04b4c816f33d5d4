/-
# Tokens

The cloud lets in who shows a token. A token is asked for with the credentials of a service
principal and serves until shortly before it expires.

* `CloudSession.link` : a link to the cloud that shows a token with every request.
-/
import TenantFleet.Cloud.Service
import TenantFleet.Http.Network

namespace TenantFleet

open Http

/-! ## Asking for tokens -/

/-- Where tokens of a service principal are issued. -/
structure TokenSource where
  /-- Who asks. -/
  credentials : Credentials
  /-- The address. -/
  url : String
  /-- What the tokens are for. -/
  scope : String
  deriving DecidableEq, Inhabited

namespace TokenSource

/-- The source of tokens of a service principal in a cloud. -/
def of (credentials : Credentials) (cloud : CloudAddresses) : TokenSource where
  credentials := credentials
  url := withoutSlashes cloud.authority ++ "/" ++ credentials.tenantId ++ "/oauth2/v2.0/token"
  scope := withoutSlashes cloud.manager ++ "/.default"

/-- The request for a token. -/
def request (s : TokenSource) : Request :=
  .post s.url (some (.form [
    ("grant_type", "client_credentials"),
    ("client_id", s.credentials.clientId),
    ("client_secret", s.credentials.clientSecret),
    ("scope", s.scope)]))

end TokenSource

/-! ## Issued tokens -/

/-- A token. -/
structure Token where
  /-- The text that is shown. -/
  value : String
  /-- When another token is asked for. -/
  renewAt : Nat
  deriving DecidableEq, Inhabited

namespace Token

/-- How many seconds a token serves unless said. -/
def defaultLifetime : Nat := 3600

/-- How many seconds before its end a token is replaced. -/
def margin : Nat := 300

/-- Reads a token that is issued at the given second. A lifetime is a number of 64 bits; the second
at which the token is replaced is a sum without a bound, where a clock of bounded range fails if
that is beyond it. -/
def read (now : Nat) : Reader Token := fun x => do
  let ms ← Reader.members ["access_token", "expires_in"] x
  let value ← Reader.required Reader.text ms "access_token"
  let lifetime ← Reader.optional (Reader.natBits 64) ms "expires_in"
  return ⟨value, now + (lifetime.getD defaultLifetime - margin)⟩

/-- The token in a reply; a reply that cannot be read counts as lost. -/
def ofReply (now : Nat) (r : Reply) : Except AzureError Token :=
  if r.success then
    match r.decoded (read now) with
    | .ok t => .ok t
    | .error _ => .error .transport
  else
    .error (.authentication ("token request failed: " ++ statusLine r.status ++ " - " ++ r.text))

end Token

/-! ## Sessions -/

/-- A subscription with the token that opens it. -/
structure CloudSession where
  /-- The service that manages its resources. -/
  service : CloudService
  /-- Where its tokens come from. -/
  source : TokenSource
  /-- The token that was issued last. -/
  token : Option Token := none
  deriving DecidableEq, Inhabited

namespace CloudSession

variable {ω : Type}

/-- The session of a service principal in a cloud. -/
def of (credentials : Credentials) (cloud : CloudAddresses) : CloudSession :=
  { service := .of credentials cloud, source := .of credentials cloud }

/-- The token, if it still serves at the given second. -/
def fresh? (s : CloudSession) (now : Nat) : Option Token := s.token.filter fun t => now < t.renewAt

/-- A token that serves now: the one at hand or a new one. -/
def obtain (net : Network ω) (s : CloudSession) (w : ω) :
    Except AzureError Token × CloudSession × ω :=
  match s.fresh? (net.clock w) with
  | some t => (.ok t, s, w)
  | none =>
    match net.reply s.source.request w with
    | (none, w) => (.error .transport, s, w)
    | (some reply, w) =>
      match Token.ofReply (net.clock w) reply with
      | .ok t => (.ok t, { s with token := some t }, w)
      | .error e => (.error e, s, w)

/-- The link to the cloud that shows a token with every request. -/
def link (net : Network ω) : Link AzureError (CloudSession × ω) := fun r (s, w) =>
  match obtain net s w with
  | (.error e, s, w) => (.error e, s, w)
  | (.ok t, s, w) =>
    match net.reply (r.signed t.value).acceptingJson w with
    | (some reply, w) => (.ok reply, s, w)
    | (none, w) => (.error .transport, s, w)

/-- The result of a request of a pass about the resources of a group. -/
def perform (net : Network ω) (s : CloudSession) (group : String) (c : CloudCall) (w : ω) :
    Except AzureError c.Answer × CloudSession × ω :=
  (s.service.perform group c).run (link net) (s, w)

end CloudSession

end TenantFleet
