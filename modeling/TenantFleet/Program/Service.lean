/-
# Services of a pass

The resource groups and the tenant clusters that a pass works on, with the ways it calls them: a
failure ends the pass, except where a resource that is missing is an answer too.
-/
import TenantFleet.Program.Basic

namespace TenantFleet

/-! ## Resource groups -/

/-- A resource group of a subscription. -/
structure ResourceGroup where
  /-- The subscription. -/
  account : Account
  /-- The name. -/
  name : String
  deriving DecidableEq, Inhabited

namespace ResourceGroup

/-- A request whose failure ends the program. -/
def call (g : ResourceGroup) (c : CloudCall) : Program c.Answer :=
  Program.call (.cloud g.account g.name c)

/-- A request for a resource that may be missing. -/
def find? (g : ResourceGroup) (c : CloudCall) : Program (Option c.Answer) :=
  .ask (.cloud g.account g.name c) fun
    | .ok a => .done (.ok (some a))
    | .error e => if e.isNotFound then .done (.ok none) else .done (.error (.azure e))

/-- Waits for the end of an operation. -/
def wait (g : ResourceGroup) (operation : Operation) : Program Unit := g.call (.wait operation)

end ResourceGroup

/-- The resource group of a cluster. -/
def AzureConfig.group (c : AzureConfig) : ResourceGroup := ⟨.cluster c.secret, c.clusterId⟩

/-! ## Tenant clusters -/

/-- An open tenant cluster. -/
structure Tenant where
  /-- The namespace of its declaration. -/
  space : String
  /-- Its ID. -/
  clusterId : String
  deriving DecidableEq, Inhabited

namespace Tenant

/-- Opens a tenant cluster; nothing when it cannot be reached. -/
def open? (space clusterId : String) : Program (Option Tenant) := do
  let reachable ← Program.call (.openTenant space clusterId)
  return if reachable then some ⟨space, clusterId⟩ else none

/-- The nodes with the labels of a selector. -/
def nodes (t : Tenant) (selector : String) : Program (List Node) :=
  Program.call (.tenant t.space t.clusterId (.listNodes (some selector)))

/-- Goes on when a call succeeded or failed because the object does not exist. -/
def unlessMissing : Except TenantError Unit → Program Unit
  | .ok () => .done (.ok ())
  | .error e => if e.isNotFound then .done (.ok ()) else .done (.error (.tenant e))

/-- Keeps new work away from a node that may have gone. -/
def cordon (t : Tenant) (node : String) : Program Unit :=
  .ask (.tenant t.space t.clusterId (.cordonNode node)) unlessMissing

/-- Removes a node that may have gone. -/
def removeNode (t : Tenant) (node : String) : Program Unit :=
  .ask (.tenant t.space t.clusterId (.deleteNode node)) unlessMissing

end Tenant

/-! ## Bundles -/

/-- The issued bundle of a member. -/
def findBundle (clusterId : String) (cert : EtcdCert) : Program Tls :=
  Program.call (.findBundle clusterId cert)

end TenantFleet
