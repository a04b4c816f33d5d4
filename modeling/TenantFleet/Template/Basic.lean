/-
# Deployment templates

A template and its parameters make up a deployment. Their checksums are the hashes of their normal
texts, so they tell documents apart but not the blanks or the member order they were written with.

* `mastersParameters` and `poolParameters` : the parameters that a declaration determines.
-/
import TenantFleet.Json.Parser
import TenantFleet.Json.Printer
import TenantFleet.Hash.Sha256
import TenantFleet.Resource.Deployment
import TenantFleet.Stage.State

namespace TenantFleet

/-- The checksum of a document. -/
def checksum (document : Json) : String := Sha256.hex document.normalText

/-- A template with its parameters. -/
structure DeploymentTemplate where
  /-- The template. -/
  template : Json
  /-- The parameters: for each name an object with the value. -/
  parameters : Json
  deriving DecidableEq, Inhabited

namespace DeploymentTemplate

/-- The deployment of a template. -/
def deployment (t : DeploymentTemplate) : Deployment := .incremental t.template t.parameters

/-- The checksums of the template and of the parameters. -/
def checksums (t : DeploymentTemplate) : String × String :=
  (checksum t.template, checksum t.parameters)

end DeploymentTemplate

/-- The checksums of a template, when they are not those of the deployment submitted last. -/
def drift (s : HandlerState) (t : DeploymentTemplate) : Option (String × String) :=
  if s.templateChecksum = some t.checksums.1 ∧ s.parametersChecksum = some t.checksums.2 then none
  else some t.checksums

/-! ## Parameters -/

/-- The parameters of the given values. -/
def parameters (values : List (String × Json)) : Json :=
  .object (values.map fun v => (v.1, .object [("value", v.2)]))

/-- The parameters of the masters of a cluster. -/
def mastersParameters (c : AzureConfig) (operatorVersion : String) : Json :=
  parameters [
    ("clusterID", .str c.clusterId),
    ("location", .str c.location),
    ("masterCount", .nat c.masterCount),
    ("masterVMSize", .str (c.masters.headD "")),
    ("operatorVersion", .str operatorVersion),
    ("zones", .ofTextList (c.zones.map toString))]

/-- The size of the data disk of a worker unless declared. -/
def defaultDataDiskSizeGB : Nat := 100

/-- The parameters of a pool. -/
def poolParameters (p : AzureMachinePool) (m : MachinePool) (operatorVersion : String) : Json :=
  parameters [
    ("clusterID", .str m.clusterName),
    ("location", .str p.location),
    ("nodepoolName", .str (p.metadata.name.getD "")),
    ("operatorVersion", .str operatorVersion),
    ("replicas", .int m.desired),
    ("dataDiskSizeGB", .nat (p.dataDiskSizeGB.getD defaultDataDiskSizeGB)),
    ("vmSize", .str p.vmSize)]

/-! ## Template files -/

/-- The templates of a directory. -/
structure TemplateFiles where
  /-- The directory. -/
  directory : String
  /-- The texts of the files. -/
  files : Dict String

namespace TemplateFiles

/-- The file with the template of the masters. -/
def mastersFile : String := "masters.json"

/-- The file with the template of a pool. -/
def poolFile : String := "nodepool.json"

/-- The document in a file. -/
def document (t : TemplateFiles) (file : String) : Except Error Json :=
  let path := t.directory ++ "/" ++ file
  match t.files.get? file with
  | none =>
    .error (.invalidConfig (.unreadableTemplate path "No such file or directory (os error 2)"))
  | some text =>
    match Json.read? text with
    | none => .error (.invalidConfig (.invalidTemplate path))
    | some x => .ok x

/-- The template of the masters of a cluster. -/
def masters (t : TemplateFiles) (c : AzureConfig) (operatorVersion : String) :
    Except Error DeploymentTemplate := do
  return ⟨← t.document mastersFile, mastersParameters c operatorVersion⟩

/-- The template of a pool. -/
def pool (t : TemplateFiles) (p : AzureMachinePool) (m : MachinePool) (operatorVersion : String) :
    Except Error DeploymentTemplate := do
  return ⟨← t.document poolFile, poolParameters p m operatorVersion⟩

end TemplateFiles

end TenantFleet
