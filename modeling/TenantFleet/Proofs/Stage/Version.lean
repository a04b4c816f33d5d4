/-
# The version of a stored object

An object is stored under a version, and a write names the version of the copy that its map was read
from. A write changes the map of its handler and nothing else of what an object declares or keeps.

* `Json.version` : the version that the document of an object says;
* `version_of_readConfig`, `version_of_readPool` : it is the one that the object is read with;
* `mapsIn_withVersion` : what the handlers keep does not depend on the version;
* `Keeps` : that two documents differ in the map of a handler at most.
-/
import TenantFleet.Proofs.Stage.Status

namespace TenantFleet

open Reader

/-! ## Versions in documents -/

namespace Json

/-- The version that the document of an object says. -/
def version (x : Json) : Option String := (at? ["metadata", "resourceVersion"] x).bind text?

/-- The part of a document that says a version. -/
def versionMember (version : String) : String × Json :=
  ("metadata", .obj [("resourceVersion", .str version)])

/-- The document of an object under a version. -/
def withVersion (x : Json) (version : String) : Json := x.merge (.obj [versionMember version])

/-- A document says the version that it was put under. -/
theorem version_withVersion (x : Json) (version : String) :
    (x.withVersion version).version = some version := by
  show (((x.withVersion version).get? "metadata").bind fun y =>
    (y.get? "resourceVersion").bind some).bind text? = _
  unfold withVersion versionMember
  rw [get?_merge_single _ _ _ (by intro h; cases h), if_pos rfl, Option.bind_some,
    get?_merge_single _ _ _ (by intro h; cases h), if_pos rfl]
  rfl

/-- Nothing but the metadata depends on the version. -/
theorem get?_withVersion (x : Json) (version : String) {key : String} (hkey : key ≠ "metadata") :
    (x.withVersion version).get? key = x.get? key := by
  unfold withVersion versionMember
  rw [get?_merge_single _ _ _ (by intro h; cases h), if_neg (Ne.symm hkey)]

end Json

/-! ## Versions that are read -/

/-- A text that may be missing is read of the first of its values. -/
theorem optional_text {ms : Members} {name : String} {r : Option String}
    (h : optional text ms name = some r) :
    r = ((values ms name).head?.bind (nullable text)).join := by
  unfold Reader.optional at h
  obtain ⟨found, hfound, h⟩ := Option.bind_eq_some_iff.1 h
  rw [← Option.some.inj h]
  cases hvalues : values ms name with
  | nil =>
    rw [hvalues] at hfound
    cases hfound
    rfl
  | cons v rest =>
    rw [hvalues, List.mapM_cons] at hfound
    obtain ⟨a, ha, hfound⟩ := Option.bind_eq_some_iff.1 hfound
    obtain ⟨others, -, hfound⟩ := Option.bind_eq_some_iff.1 hfound
    cases hfound
    rw [List.head?_cons, List.head?_cons, Option.bind_some, ha]

/-- Metadata is read with the version that it says. -/
theorem version_of_metadata {x : Json} {m : Metadata} (h : Metadata.read x.written = some m) :
    m.resourceVersion = (x.get? "resourceVersion").bind Json.text? := by
  cases x with
  | obj ms =>
    replace h : Metadata.read (.obj (Json.writtenMembers ms)) = some m := h
    unfold Metadata.read at h
    replace h :
        Option.bind (optional texts (Json.writtenMembers ms).reverse "annotations") _ = some m := h
    obtain ⟨annotations, -, h⟩ := Option.bind_eq_some_iff.1 h
    obtain ⟨created, -, h⟩ := Option.bind_eq_some_iff.1 h
    obtain ⟨grace, -, h⟩ := Option.bind_eq_some_iff.1 h
    obtain ⟨deleted, -, h⟩ := Option.bind_eq_some_iff.1 h
    obtain ⟨finalizers, -, h⟩ := Option.bind_eq_some_iff.1 h
    obtain ⟨stem, -, h⟩ := Option.bind_eq_some_iff.1 h
    obtain ⟨generation, -, h⟩ := Option.bind_eq_some_iff.1 h
    obtain ⟨labels, -, h⟩ := Option.bind_eq_some_iff.1 h
    obtain ⟨fields, -, h⟩ := Option.bind_eq_some_iff.1 h
    obtain ⟨name, -, h⟩ := Option.bind_eq_some_iff.1 h
    obtain ⟨space, -, h⟩ := Option.bind_eq_some_iff.1 h
    obtain ⟨owners, -, h⟩ := Option.bind_eq_some_iff.1 h
    obtain ⟨version, hversion, h⟩ := Option.bind_eq_some_iff.1 h
    obtain ⟨link, -, h⟩ := Option.bind_eq_some_iff.1 h
    obtain ⟨uid, -, h⟩ := Option.bind_eq_some_iff.1 h
    have hm : m.resourceVersion = version := by rw [← Option.some.inj h]
    have hvalues : (values (Json.writtenMembers ms).reverse "resourceVersion").head? =
        ((Json.obj ms).get? "resourceVersion").map Json.written := by
      unfold values
      rw [List.filter_reverse, List.map_reverse, List.head?_reverse, Json.get?_obj,
        ← List.getLast?_map, ← Json.values_writtenMembers]
      rfl
    rw [hm, optional_text hversion, hvalues]
    cases (Json.obj ms).get? "resourceVersion" with
    | none => rfl
    | some y => cases y <;> rfl
  | _ => cases h

/-- An object is read with the metadata that stands in its document. -/
theorem version_of_required {ms : List (String × Json)} {m : Metadata}
    (hunique : unique ["metadata", "spec", "status"] (Json.writtenMembers ms) = true)
    (h : required Metadata.read (Json.writtenMembers ms) "metadata" = some m) :
    m.resourceVersion = (Json.obj ms).version := by
  unfold required at h
  rw [find?_eq_head?, values_written hunique (by decide)] at h
  show _ = (((Json.obj ms).get? "metadata").bind fun y => (y.get? "resourceVersion").bind some).bind
    Json.text?
  cases hy : (Json.obj ms).get? "metadata" with
  | none =>
    rw [hy] at h
    cases h
  | some y =>
    rw [hy] at h
    rw [version_of_metadata h, Option.bind_some, Option.bind_fun_some]

/-- A cluster configuration is read with the version that its document says. -/
theorem version_of_readConfig {ms : List (String × Json)} {c : AzureConfig}
    (h : AzureConfig.read (Json.obj ms).written = some c) :
    c.metadata.resourceVersion = (Json.obj ms).version := by
  replace h : AzureConfig.read (.obj (Json.writtenMembers ms)) = some c := h
  unfold AzureConfig.read objectMembers namedMembers at h
  dsimp only at h
  split at h
  · rename_i hunique
    obtain ⟨_, hms, h⟩ := Option.bind_eq_some_iff.1 h
    cases hms
    obtain ⟨m, hm, h⟩ := Option.bind_eq_some_iff.1 h
    obtain ⟨spec, -, h⟩ := Option.bind_eq_some_iff.1 h
    obtain ⟨status, -, h⟩ := Option.bind_eq_some_iff.1 h
    rw [← Option.some.inj h]
    exact version_of_required hunique hm
  · cases h

/-- A pool is read with the version that its document says. -/
theorem version_of_readPool {ms : List (String × Json)} {p : AzureMachinePool}
    (h : AzureMachinePool.read (Json.obj ms).written = some p) :
    p.metadata.resourceVersion = (Json.obj ms).version := by
  replace h : AzureMachinePool.read (.obj (Json.writtenMembers ms)) = some p := h
  unfold AzureMachinePool.read objectMembers namedMembers at h
  dsimp only at h
  split at h
  · rename_i hunique
    obtain ⟨_, hms, h⟩ := Option.bind_eq_some_iff.1 h
    cases hms
    obtain ⟨m, hm, h⟩ := Option.bind_eq_some_iff.1 h
    obtain ⟨spec, -, h⟩ := Option.bind_eq_some_iff.1 h
    obtain ⟨status, -, h⟩ := Option.bind_eq_some_iff.1 h
    rw [← Option.some.inj h]
    exact version_of_required hunique hm
  · cases h

/-- What the handlers keep does not depend on the version. -/
theorem mapsIn_withVersion {k : TargetKind} {ms : List (String × Json)} {maps : Option HandlerMaps}
    (h : k.mapsIn (Json.obj ms).written = some maps) (version : String) :
    k.mapsIn ((Json.obj ms).withVersion version).written = some maps := by
  have hparts : k.mapsIn (.obj (Json.writtenMembers ms)) = some maps := h
  obtain ⟨hunique, ⟨m, hm⟩, -, -⟩ := parts_of_mapsIn hparts
  unfold required at hm
  rw [find?_eq_head?, values_written hunique (by decide)] at hm
  cases hx : (Json.obj ms).get? "metadata" with
  | none =>
    rw [hx] at hm
    cases hm
  | some x =>
    rw [hx] at hm
    show k.mapsIn (.obj (Json.writtenMembers (Json.mergeMembers ms
      [("metadata", .obj [("resourceVersion", .str version)])]))) = _
    rw [Json.mergeMembers_cons _ _ (by intro h; cases h), hx]
    show k.mapsIn (.obj (Json.writtenMembers (Json.setMember _ _ ms))) = _
    rw [Json.writtenMembers_setMember]
    exact mapsIn_of_metadata (sets_setMember "metadata" _ _) (read_merge_version hm version) hparts

/-! ## What a write leaves -/

/-- The version that the patch of a write says. -/
theorem version_statusPatch (version : Option String) (handler : String) (values : Dict String) :
    (statusPatch version handler values).version = version := by
  rw [statusPatch_eq]
  cases version <;> rfl

/-- Whether two documents of an object differ in their metadata and in the map of one handler at
most. -/
structure Keeps (handler : String) (x x' : Json) : Prop where
  /-- What the object declares, and all else beside its metadata and status. -/
  spec : ∀ key, key ≠ "metadata" → key ≠ "status" → x'.get? key = x.get? key
  /-- The conditions, and all else of the status beside what the handlers keep. -/
  conditions : ∀ key, key ≠ "resources" → x'.at? ["status", key] = x.at? ["status", key]
  /-- The maps of the other handlers. -/
  handlers : ∀ other, other ≠ handler →
    x'.at? ["status", "resources", other] = x.at? ["status", "resources", other]

/-- What is merged into a member of a document is merged into nothing when there is none. -/
theorem at?_merge_single (x : Json) (name : String) (path : List String) {patch : Json}
    (hpatch : patch ≠ .null) (hpath : path ≠ [])
    (h : ∀ y : Json, (y.merge patch).at? path = y.at? path) :
    (x.merge (.obj [(name, patch)])).at? (name :: path) = x.at? (name :: path) := by
  show ((x.merge (.obj [(name, patch)])).get? name).bind (Json.at? path) = (x.get? name).bind _
  rw [Json.get?_merge_single _ _ _ hpatch, if_pos rfl, Option.bind_some, h]
  cases x.get? name with
  | none =>
    -- Nothing stands in a document that is nothing.
    cases path with
    | nil => exact absurd rfl hpath
    | cons key rest => rfl
  | some y => rfl

/-- Merging the part of a write that is about the status keeps the rest. -/
theorem keeps_merge_status (x : Json) (handler : String) (values : Dict String) :
    Keeps handler x (x.merge (.obj [("status", statusMembers handler values)])) where
  spec key _ hstatus := by
    rw [Json.get?_merge_single _ _ _ (by intro h; cases h), if_neg (Ne.symm hstatus)]
  conditions key hkey := by
    refine at?_merge_single x "status" [key] (by intro h; cases h) (by simp) fun y => ?_
    show ((y.merge (.obj [("resources", resourcesPatch handler values)])).get? key).bind _ = _
    rw [Json.get?_merge_single _ _ _ (by intro h; cases h), if_neg (Ne.symm hkey)]
    rfl
  handlers other hother := by
    refine at?_merge_single x "status" ["resources", other] (by intro h; cases h) (by simp) ?_
    intro y
    refine at?_merge_single y "resources" [other] (by intro h; cases h) (by simp) fun z => ?_
    show ((z.merge (.obj [(handler, .ofTexts values)])).get? other).bind _ = _
    rw [Json.get?_merge_single _ _ _ (by intro h; cases h), if_neg (Ne.symm hother)]
    rfl

/-- Two steps that keep the rest keep it. -/
theorem Keeps.trans {handler : String} {x x' x'' : Json} (h : Keeps handler x x')
    (h' : Keeps handler x' x'') : Keeps handler x x'' where
  spec key hmetadata hstatus := (h'.spec key hmetadata hstatus).trans (h.spec key hmetadata hstatus)
  conditions key hkey := (h'.conditions key hkey).trans (h.conditions key hkey)
  handlers other hother := (h'.handlers other hother).trans (h.handlers other hother)

/-- A version is no more than metadata. -/
theorem keeps_withVersion (handler : String) (x : Json) (version : String) :
    Keeps handler x (x.withVersion version) where
  spec key hmetadata _ := x.get?_withVersion version hmetadata
  conditions key _ := by
    show ((x.withVersion version).get? "status").bind _ = (x.get? "status").bind _
    rw [x.get?_withVersion version (by decide)]
  handlers other _ := by
    show ((x.withVersion version).get? "status").bind _ = (x.get? "status").bind _
    rw [x.get?_withVersion version (by decide)]

/-- A write that is merged under a new version keeps all but the map of its handler. -/
theorem keeps_write (x : Json) (version : Option String) (handler : String) (values : Dict String)
    (next : String) :
    Keeps handler x ((x.merge (statusPatch version handler values)).withVersion next) := by
  refine Keeps.trans ?_ (keeps_withVersion handler _ next)
  rw [statusPatch_eq]
  cases version with
  | none => exact keeps_merge_status x handler values
  | some v =>
    show Keeps handler x
        (x.merge (.obj [Json.versionMember v, ("status", statusMembers handler values)]))
    rw [Json.merge_cons]
    exact (keeps_withVersion handler x v).trans (keeps_merge_status _ handler values)

end TenantFleet
