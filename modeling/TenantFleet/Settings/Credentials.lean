/-
# Credentials of a subscription

The service principal that signs in to a subscription, and the addresses of the cloud. Credentials
are set for the control plane and read from a secret for every cluster; the client secret is never
shown.
-/
import TenantFleet.Error
import TenantFleet.Object.Node
import TenantFleet.Text.Blank
import TenantFleet.Text.Quoted

namespace TenantFleet

/-! ## Service principals -/

/-- The service principal of a subscription. -/
structure Credentials where
  /-- The directory. -/
  tenantId : String
  /-- The application. -/
  clientId : String
  /-- The password of the application. -/
  clientSecret : String
  /-- The subscription. -/
  subscriptionId : String
  deriving DecidableEq, Inhabited

namespace Credentials

/-- The key of the directory. -/
def tenantIdKey : String := "azure.azureoperator.tenantid"

/-- The key of the application. -/
def clientIdKey : String := "azure.azureoperator.clientid"

/-- The key of the password. -/
def clientSecretKey : String := "azure.azureoperator.clientsecret"

/-- The key of the subscription. -/
def subscriptionIdKey : String := "azure.azureoperator.subscriptionid"

/-- The text of a field without blanks around it. -/
def field (s : Secret) (key : String) : Except ConfigFault String :=
  let name := s.metadata.name.getD ""
  match s.bytes? key with
  | none => .error (.missingCredential name key)
  | some bytes =>
    match Utf8.decode bytes with
    | .ok text => .ok (Text.trim text)
    | .error cause => .error (.credentialNotText name key cause)

/-- The service principal in a secret. -/
def ofSecret (s : Secret) : Except ConfigFault Credentials := do
  return {
    tenantId := ← field s tenantIdKey
    clientId := ← field s clientIdKey
    clientSecret := ← field s clientSecretKey
    subscriptionId := ← field s subscriptionIdKey }

/-- A description that hides the password. -/
def describe (c : Credentials) : String :=
  "AzureCredentials \x7b tenant_id: " ++ Text.quoted c.tenantId ++
    ", client_id: " ++ Text.quoted c.clientId ++
    ", client_secret: " ++ Text.quoted "<redacted>" ++
    ", subscription_id: " ++ Text.quoted c.subscriptionId ++ " \x7d"

end Credentials

/-! ## Clouds -/

/-- The addresses of a cloud. -/
structure CloudAddresses where
  /-- Where resources are managed. -/
  manager : String := "https://management.azure.com"
  /-- Where tokens are issued. -/
  authority : String := "https://login.microsoftonline.com"
  deriving DecidableEq, Inhabited

end TenantFleet
