/-
# The state of a handler

A handler keeps its stage, the checksums of the deployment it submitted last, and when it last
waited, in a map of texts. A write names the object and the version of it that the map was read at.

* `HandlerState.after` : the map after a transition;
* `statusPatch` : the patch that writes the map.
-/
import TenantFleet.Stage.Basic
import TenantFleet.Object.AzureConfig
import TenantFleet.Object.MachinePool

namespace TenantFleet

/-! ## The map -/

/-- The map of a handler. -/
structure HandlerState where
  /-- The texts by key. -/
  values : Dict String := .empty
  deriving DecidableEq, Inhabited

namespace HandlerState

/-- The key of the stage. -/
def stageKey : String := "Stage"

/-- The key of the checksum of the template. -/
def templateKey : String := "TemplateChecksum"

/-- The key of the checksum of the parameters. -/
def parametersKey : String := "ParametersChecksum"

/-- The key of the time of the last wait. -/
def touchKey : String := "Touch"

/-- The map of a handler in a status, empty when it was never written. -/
def load (maps : Option HandlerMaps) (handler : String) : HandlerState :=
  ⟨(maps.bind (·.get? handler)).getD .empty⟩

/-- The stage. -/
def stage (σ : Type) [Stage σ] (s : HandlerState) : σ :=
  match s.values.get? stageKey with
  | some name => Stage.ofName name
  | none => Stage.initial

/-- The map with another stage. -/
def setStage {σ : Type} [Stage σ] (s : HandlerState) (stage : σ) : HandlerState :=
  ⟨s.values.insert stageKey (Stage.name stage)⟩

/-- The checksum of the template that was submitted last. -/
def templateChecksum (s : HandlerState) : Option String := s.values.get? templateKey

/-- The checksum of the parameters that were submitted last. -/
def parametersChecksum (s : HandlerState) : Option String := s.values.get? parametersKey

/-- The map with the checksums of a deployment that was submitted. -/
def setChecksums (s : HandlerState) (template parameters : String) : HandlerState :=
  ⟨(s.values.insert templateKey template).insert parametersKey parameters⟩

/-- The map without the submitted deployment. -/
def clearChecksums (s : HandlerState) : HandlerState :=
  ⟨(s.values.erase templateKey).erase parametersKey⟩

/-- The map with the time of a wait. -/
def touch (s : HandlerState) (now : Timestamp) : HandlerState :=
  ⟨s.values.insert touchKey now.seconds⟩

/-- The map after a transition: its stage, and the time when it waits. -/
def after {σ : Type} [Stage σ] (s : HandlerState) (t : Transition σ)
    (now : Timestamp) : HandlerState :=
  if t.waits then (s.setStage t.stage).touch now else s.setStage t.stage

@[simp] theorem stageKey_ne_templateKey : stageKey ≠ templateKey := by decide

@[simp] theorem stageKey_ne_parametersKey : stageKey ≠ parametersKey := by decide

@[simp] theorem stageKey_ne_touchKey : stageKey ≠ touchKey := by decide

@[simp] theorem templateKey_ne_parametersKey : templateKey ≠ parametersKey := by decide

@[simp] theorem touchKey_ne_templateKey : touchKey ≠ templateKey := by decide

@[simp] theorem touchKey_ne_parametersKey : touchKey ≠ parametersKey := by decide

/-- Both checksums are known after they were set. -/
theorem checksums_setChecksums (s : HandlerState) (template parameters : String) :
    (s.setChecksums template parameters).templateChecksum = some template ∧
      (s.setChecksums template parameters).parametersChecksum = some parameters := by
  refine ⟨?_, ?_⟩
  · simp only [templateChecksum, setChecksums]
    rw [Dict.get?_insert_of_ne _ _ (Ne.symm templateKey_ne_parametersKey), Dict.get?_insert_self]
  · simp only [parametersChecksum, setChecksums, Dict.get?_insert_self]

/-- Neither checksum is known after they were cleared. -/
theorem checksums_clearChecksums (s : HandlerState) :
    s.clearChecksums.templateChecksum = none ∧ s.clearChecksums.parametersChecksum = none := by
  refine ⟨?_, ?_⟩
  · simp only [templateChecksum, clearChecksums]
    rw [Dict.get?_erase_of_ne _ (Ne.symm templateKey_ne_parametersKey), Dict.get?_erase_self]
  · simp only [parametersChecksum, clearChecksums, Dict.get?_erase_self]

end HandlerState

/-! ## Writes -/

/-- The kinds of objects whose status holds handler maps. -/
inductive TargetKind
  | azureConfig
  | azureMachinePool
  deriving DecidableEq, Inhabited

/-- The name of the kind. -/
def TargetKind.name : TargetKind → String
  | .azureConfig => "AzureConfig"
  | .azureMachinePool => "AzureMachinePool"

/-- The object that a write is about. -/
structure StatusTarget where
  /-- The kind of the object. -/
  kind : TargetKind
  /-- The namespace. -/
  space : String
  /-- The name. -/
  name : String
  /-- The version that the state was read at. -/
  resourceVersion : Option String
  deriving DecidableEq, Inhabited

namespace StatusTarget

/-- The target of an object with the given metadata. -/
def ofMetadata (kind : TargetKind) (m : Metadata) : StatusTarget :=
  ⟨kind, m.spaceName, m.anyName, m.resourceVersion⟩

/-- The target of a cluster configuration. -/
def ofConfig (c : AzureConfig) : StatusTarget := ofMetadata .azureConfig c.metadata

/-- The target of a pool. -/
def ofPool (p : AzureMachinePool) : StatusTarget := ofMetadata .azureMachinePool p.metadata

end StatusTarget

/-- The patch that writes the map of a handler, bound to a version of the object. -/
def statusPatch (resourceVersion : Option String) (handler : String)
    (values : Dict String) : Json :=
  .record [
    ("metadata", resourceVersion.map fun v => .record [("resourceVersion", some (.str v))]),
    ("status", some (.record [("resources", some (.record [(handler, some (.ofTexts values))]))]))]

end TenantFleet
