/-
# Networks

The servers that can be reached, with a clock: a request gets a reply, or none when the server
cannot be reached or the connection breaks.
-/
import TenantFleet.Http.Exchange

namespace TenantFleet.Http

/-- A network whose state has the given type. -/
structure Network (ω : Type) where
  /-- The reply to a request, if there is one, and the state after it. -/
  reply : Request → ω → Option Reply × ω
  /-- The seconds that have passed since some time. -/
  clock : ω → Nat

namespace Network

variable {ε ω : Type}

/-- The network without servers. -/
def silent : Network Unit where
  reply _ w := (none, w)
  clock _ := 0

/-- The link that fails in one way when there is no reply. -/
def link (net : Network ω) (lost : ε) : Link ε ω := fun r w =>
  match net.reply r w with
  | (some reply, w) => (.ok reply, w)
  | (none, w) => (.error lost, w)

end Network

end TenantFleet.Http
