/-
# The status of a stored object

What the handlers keep is a part of the status of an object, and a write of a handler is a patch of
that part. Of a document that can be read, the patch leaves one that can be read, with the map of
the handler overlaid and all other maps as they were.

* `TargetKind.mapsIn` : what the handlers keep in the document of an object;
* `mapsIn_merge` : the same after a write was merged into the document.
-/
import TenantFleet.Proofs.Json.Reading
import TenantFleet.Stage.State

namespace TenantFleet

open Reader
open Json (setMember)

/-! ## The maps in an object -/

namespace TargetKind

/-- Reads what the handlers keep in the status of an object. -/
def readStatus : TargetKind → Reader HandlerMaps
  | azureConfig => fun x => (AzureConfigStatus.read x).map AzureConfigStatus.resources
  | azureMachinePool => fun x =>
    (AzureMachinePoolStatus.read x).map AzureMachinePoolStatus.resources

/-- The names of the parts of a status. -/
def statusNames : TargetKind → List String
  | azureConfig => ["resources", "conditions"]
  | azureMachinePool => ["resources", "replicas", "conditions"]

/-- Reads the parts of a status beside what the handlers keep. -/
def readOthers : TargetKind → Members → Option Unit
  | azureConfig => fun ms => do
    let _ ← defaulted (Reader.list Condition.read) [] ms "conditions"
  | azureMachinePool => fun ms => do
    let _ ← optional int32 ms "replicas"
    let _ ← defaulted (Reader.list Condition.read) [] ms "conditions"

/-- Reads what an object declares. -/
def readSpec : TargetKind → Reader Unit
  | azureConfig => fun x => do
    let ms ← Reader.members ["cluster", "azure"] x
    let _ ← Reader.required AzureConfig.readCluster ms "cluster"
    let _ ← Reader.required AzureConfig.readCloud ms "azure"
  | azureMachinePool => fun x => (AzureMachinePool.readSpec x).map fun _ => ()

/-- What the handlers keep in the document of an object, if it can be read. -/
def mapsIn (k : TargetKind) (x : Json.Written) : Option (Option HandlerMaps) :=
  match k with
  | azureConfig => (AzureConfig.read x).map AzureConfig.maps
  | azureMachinePool => (AzureMachinePool.read x).map AzureMachinePool.maps

end TargetKind

variable {k : TargetKind} {maps : Option HandlerMaps}

/-- The maps of an object are read from its status, when its other parts can be read. -/
theorem mapsIn_obj (k : TargetKind) (ms : Members) :
    k.mapsIn (.obj ms) =
      if unique ["metadata", "spec", "status"] ms then do
        let _ ← required Metadata.read ms "metadata"
        let _ ← required k.readSpec ms "spec"
        optional k.readStatus ms "status"
      else none := by
  cases k with
  | azureConfig =>
    show (AzureConfig.read (.obj ms)).map AzureConfig.maps = _
    unfold AzureConfig.read TargetKind.readSpec TargetKind.readStatus
    rw [optional_map]
    simp only [objectMembers, namedMembers]
    split
    · simp only [Option.bind_eq_bind, Option.bind_some]
      cases required Metadata.read ms "metadata" with
      | none => rfl
      | some md =>
        unfold required
        cases find? ms "spec" with
        | none => rfl
        | some y =>
          simp only [Option.bind_some]
          cases Reader.members ["cluster", "azure"] y with
          | none => rfl
          | some ss =>
            simp only [Option.bind_some]
            cases (find? ss "cluster").bind AzureConfig.readCluster with
            | none => rfl
            | some cluster =>
              cases (find? ss "azure").bind AzureConfig.readCloud with
              | none => rfl
              | some cloud => cases optional AzureConfigStatus.read ms "status" <;> rfl
    · rfl
  | azureMachinePool =>
    show (AzureMachinePool.read (.obj ms)).map AzureMachinePool.maps = _
    unfold AzureMachinePool.read TargetKind.readSpec TargetKind.readStatus
    rw [optional_map]
    simp only [objectMembers, namedMembers]
    split
    · simp only [Option.bind_eq_bind, Option.bind_some]
      cases required Metadata.read ms "metadata" with
      | none => rfl
      | some md =>
        unfold required
        cases find? ms "spec" with
        | none => rfl
        | some y =>
          simp only [Option.bind_some]
          cases AzureMachinePool.readSpec y with
          | none => rfl
          | some spec => cases optional AzureMachinePoolStatus.read ms "status" <;> rfl
    · rfl

/-- What the handlers keep is read from its part of a status, when the other parts can be read. -/
theorem readStatus_obj (k : TargetKind) (ms : Members) :
    k.readStatus (.obj ms) =
      if unique k.statusNames ms then do
        let maps ← defaulted HandlerMaps.read .empty ms "resources"
        k.readOthers ms
        return maps
      else none := by
  cases k with
  | azureConfig =>
    unfold TargetKind.readStatus AzureConfigStatus.read TargetKind.statusNames TargetKind.readOthers
    simp only [Reader.members]
    split
    · simp only [Option.bind_eq_bind, Option.bind_some]
      cases defaulted HandlerMaps.read .empty ms "resources" with
      | none => rfl
      | some maps => cases defaulted (Reader.list Condition.read) [] ms "conditions" <;> rfl
    · rfl
  | azureMachinePool =>
    unfold TargetKind.readStatus AzureMachinePoolStatus.read TargetKind.statusNames
      TargetKind.readOthers
    simp only [Reader.members]
    split
    · simp only [Option.bind_eq_bind, Option.bind_some]
      cases defaulted HandlerMaps.read .empty ms "resources" with
      | none => rfl
      | some maps =>
        cases optional int32 ms "replicas" with
        | none => rfl
        | some replicas => cases defaulted (Reader.list Condition.read) [] ms "conditions" <;> rfl
    · rfl

/-- The other parts of a status do not see what the handlers keep. -/
theorem readOthers_sets {ms ms' : Members} {v : Json.Written} (h : Sets "resources" v ms ms') :
    k.readOthers ms' = k.readOthers ms := by
  cases k with
  | azureConfig =>
    unfold TargetKind.readOthers
    dsimp only
    rw [h.defaulted_of_ne (by decide)]
  | azureMachinePool =>
    unfold TargetKind.readOthers
    dsimp only
    rw [h.defaulted_of_ne (by decide), h.optional_of_ne (by decide)]

/-- What is read of a status that can be read. -/
theorem resources_of_readStatus {ms : Members} {kept : HandlerMaps}
    (h : k.readStatus (.obj ms) = some kept) :
    unique k.statusNames ms = true ∧ defaulted HandlerMaps.read .empty ms "resources" = some kept ∧
      k.readOthers ms = some () := by
  rw [readStatus_obj] at h
  split at h
  · rename_i hunique
    obtain ⟨kept', hkept, h⟩ := Option.bind_eq_some_iff.1 h
    obtain ⟨_, hothers, h⟩ := Option.bind_eq_some_iff.1 h
    obtain rfl : kept' = kept := Option.some.inj h
    exact ⟨hunique, hkept, hothers⟩
  · cases h

/-- A status in which the handlers' part is set. -/
theorem readStatus_setMember {ms : Members} {v : Json.Written} {kept kept' : HandlerMaps}
    (h : k.readStatus (.obj ms) = some kept) (hv : HandlerMaps.read v = some kept') :
    k.readStatus (.obj (setMember "resources" v ms)) = some kept' := by
  obtain ⟨hunique, -, hothers⟩ := resources_of_readStatus h
  have hset := sets_setMember "resources" v ms
  rw [readStatus_obj, if_pos (hset.unique hunique), hset.defaulted_self, hv,
    readOthers_sets hset, hothers]
  rfl

/-! ## Merging a write -/

/-- What the handlers keep with the map of one of them overlaid. -/
def HandlerMaps.overlay (kept : HandlerMaps) (handler : String)
    (values : Dict String) : HandlerMaps :=
  kept.insert handler ((kept.getD handler .empty).overlay values)

/-- The part of a patch that is about the handlers. -/
def resourcesPatch (handler : String) (values : Dict String) : Json :=
  .obj [(handler, .ofTexts values)]

/-- A dictionary is read from the members of what it is read from. -/
theorem dict_members {α : Type} {read : Reader α} {y : Json} {d : Dict α}
    (h : dict read y.written = some d) :
    dict read (.obj (Json.writtenMembers y.members)) = some d := by
  cases y with
  | obj ms => exact h
  | _ => cases h

/-- Merging the map of a handler overlays it. -/
theorem read_merge_handler {ms : List (String × Json)} {kept : HandlerMaps}
    (h : HandlerMaps.read (.obj (Json.writtenMembers ms)) = some kept) (handler : String)
    (values : Dict String) :
    HandlerMaps.read ((Json.obj ms).merge (resourcesPatch handler values)).written =
      some (kept.overlay handler values) := by
  have hbefore :
      kept.get? handler = ((Json.obj ms).get? handler).bind fun y => texts y.written := by
    rw [get?_of_dict h, Json.values_writtenMembers, Json.get?_obj, List.getLast?_map,
      Option.bind_map]
    rfl
  -- The patch is merged into what was kept for the handler, or into nothing.
  have hbase :
      texts (.obj (Json.writtenMembers (((Json.obj ms).get? handler).getD .null).members)) =
      some (kept.getD handler .empty) := by
    unfold Dict.getD
    cases hy : (Json.obj ms).get? handler with
    | none =>
      rw [hy] at hbefore
      rw [hbefore]
      rfl
    | some y =>
      rw [hy] at hbefore
      have hsome : (texts y.written).isSome = true := by
        rw [Json.get?_obj] at hy
        obtain ⟨m, hm, rfl⟩ := List.mem_map.1 (List.mem_of_getLast? hy)
        have hall := dict_isSome_iff.1 (Option.isSome_iff_exists.2 ⟨kept, h⟩)
        refine hall (m.1, m.2.written) ?_
        rw [Json.writtenMembers_eq_map]
        exact List.mem_map.2 ⟨m, (List.mem_filter.1 hm).1, rfl⟩
      obtain ⟨d, hd⟩ := Option.isSome_iff_exists.1 hsome
      rw [hbefore, Option.bind_some, hd]
      exact dict_members hd
  show HandlerMaps.read
    (.obj (Json.writtenMembers (Json.mergeMembers ms [(handler, .ofTexts values)]))) = _
  rw [Json.mergeMembers_cons _ _ (by intro h; cases h)]
  show HandlerMaps.read (.obj (Json.writtenMembers (setMember _ _ ms))) = _
  rw [Json.writtenMembers_setMember]
  exact dict_setMember h (texts_merge hbase values) handler

/-- The part of a patch that is about the status. -/
def statusMembers (handler : String) (values : Dict String) : Json :=
  .obj [("resources", resourcesPatch handler values)]

/-- Merging a write into a status overlays the map of its handler. -/
theorem readStatus_merge {ms : List (String × Json)} {kept : HandlerMaps}
    (h : k.readStatus (.obj (Json.writtenMembers ms)) = some kept) (handler : String)
    (values : Dict String) :
    k.readStatus ((Json.obj ms).merge (statusMembers handler values)).written =
      some (kept.overlay handler values) := by
  obtain ⟨hunique, hkept, -⟩ := resources_of_readStatus h
  have hname : "resources" ∈ k.statusNames := by cases k <;> decide
  have hbase : HandlerMaps.read
      (.obj (Json.writtenMembers (((Json.obj ms).get? "resources").getD .null).members)) =
      some kept := by
    unfold defaulted at hkept
    rw [find?_eq_head?, values_written hunique hname] at hkept
    cases hy : (Json.obj ms).get? "resources" with
    | none =>
      rw [hy] at hkept
      exact hkept
    | some y =>
      rw [hy] at hkept
      exact dict_members hkept
  show k.readStatus
    (.obj (Json.writtenMembers (Json.mergeMembers ms
      [("resources", resourcesPatch handler values)]))) = _
  rw [Json.mergeMembers_cons _ _ (by intro h; cases h)]
  show k.readStatus (.obj (Json.writtenMembers (setMember _ _ ms))) = _
  rw [Json.writtenMembers_setMember]
  exact readStatus_setMember h (read_merge_handler hbase handler values)

/-! ## Merging a write into an object -/

/-- Metadata with another version can be read as before. -/
theorem read_merge_version {x : Json} {m : Metadata} (h : Metadata.read x.written = some m)
    (version : String) :
    Metadata.read (x.merge (.obj [("resourceVersion", .str version)])).written =
      some { m with resourceVersion := some version } := by
  cases x with
  | obj ms =>
    have hset : Sets "resourceVersion" (.str version) (Json.writtenMembers ms).reverse
        (Json.writtenMembers (setMember "resourceVersion" (.str version) ms)).reverse := by
      rw [Json.writtenMembers_setMember]
      exact (sets_setMember _ _ _).reverse
    show Metadata.read
      (.obj (Json.writtenMembers (setMember "resourceVersion" (.str version) ms))) = _
    replace h : Metadata.read (.obj (Json.writtenMembers ms)) = some m := h
    unfold Metadata.read at h ⊢
    replace h :
        Option.bind (optional texts (Json.writtenMembers ms).reverse "annotations") _ = some m := h
    show Option.bind (optional texts _ "annotations") _ = _
    -- All parts but the version read as before, each in its turn.
    obtain ⟨annotations, h₁, h⟩ := Option.bind_eq_some_iff.1 h
    obtain ⟨created, h₂, h⟩ := Option.bind_eq_some_iff.1 h
    obtain ⟨grace, h₃, h⟩ := Option.bind_eq_some_iff.1 h
    obtain ⟨deleted, h₄, h⟩ := Option.bind_eq_some_iff.1 h
    obtain ⟨finalizers, h₅, h⟩ := Option.bind_eq_some_iff.1 h
    obtain ⟨stem, h₆, h⟩ := Option.bind_eq_some_iff.1 h
    obtain ⟨generation, h₇, h⟩ := Option.bind_eq_some_iff.1 h
    obtain ⟨labels, h₈, h⟩ := Option.bind_eq_some_iff.1 h
    obtain ⟨fields, h₉, h⟩ := Option.bind_eq_some_iff.1 h
    obtain ⟨name, h₁₀, h⟩ := Option.bind_eq_some_iff.1 h
    obtain ⟨space, h₁₁, h⟩ := Option.bind_eq_some_iff.1 h
    obtain ⟨owners, h₁₂, h⟩ := Option.bind_eq_some_iff.1 h
    obtain ⟨before, -, h⟩ := Option.bind_eq_some_iff.1 h
    obtain ⟨link, h₁₃, h⟩ := Option.bind_eq_some_iff.1 h
    obtain ⟨uid, h₁₄, h⟩ := Option.bind_eq_some_iff.1 h
    have hother : ∀ {α : Type} {read : Reader α} {key : String} {a : Option α},
        optional read (Json.writtenMembers ms).reverse key = some a → "resourceVersion" ≠ key →
        optional read (Json.writtenMembers (setMember "resourceVersion" (.str version) ms)).reverse
          key = some a :=
      fun h hkey => (hset.optional_of_ne hkey).trans h
    rw [hother h₁ (by decide), hother h₂ (by decide), hother h₃ (by decide), hother h₄ (by decide),
      hother h₅ (by decide), hother h₆ (by decide), hother h₇ (by decide), hother h₈ (by decide),
      hother h₉ (by decide), hother h₁₀ (by decide), hother h₁₁ (by decide), hother h₁₂ (by decide),
      hset.optional_self, hother h₁₃ (by decide), hother h₁₄ (by decide), ← Option.some.inj h]
    rfl
  | _ => cases h

/-- What a write is merged into: what the handlers keep, unless the status is written as a list,
which is replaced as a whole. -/
def keptUnder (x : Json) (maps : Option HandlerMaps) : HandlerMaps :=
  match x.get? "status" with
  | some (.obj _) => maps.getD .empty
  | _ => .empty

/-- The parts of an object that can be read. -/
theorem parts_of_mapsIn {ms : Members} (h : k.mapsIn (.obj ms) = some maps) :
    unique ["metadata", "spec", "status"] ms = true ∧
      (∃ m, required Metadata.read ms "metadata" = some m) ∧
      required k.readSpec ms "spec" = some () ∧ optional k.readStatus ms "status" = some maps := by
  rw [mapsIn_obj] at h
  split at h
  · rename_i hunique
    obtain ⟨m, hm, h⟩ := Option.bind_eq_some_iff.1 h
    obtain ⟨_, hspec, h⟩ := Option.bind_eq_some_iff.1 h
    exact ⟨hunique, ⟨m, hm⟩, hspec, h⟩
  · cases h

/-- An object whose metadata is set keeps the same maps. -/
theorem mapsIn_of_metadata {ms ms' : Members} {v : Json.Written} {m : Metadata}
    (hset : Sets "metadata" v ms ms') (hv : Metadata.read v = some m)
    (h : k.mapsIn (.obj ms) = some maps) : k.mapsIn (.obj ms') = some maps := by
  obtain ⟨hunique, -, hspec, hstatus⟩ := parts_of_mapsIn h
  rw [mapsIn_obj, if_pos (hset.unique hunique), hset.required_self, hv,
    hset.required_of_ne (by decide), hspec,
    hset.optional_of_ne (by decide)]
  exact hstatus

/-- An object whose status is set keeps the maps of that. -/
theorem mapsIn_of_status {ms ms' : Members} {v : Json.Written} {kept : HandlerMaps}
    (hset : Sets "status" v ms ms') (hv : k.readStatus v = some kept)
    (h : k.mapsIn (.obj ms) = some maps) :
    k.mapsIn (.obj ms') = some (some kept) := by
  obtain ⟨hunique, ⟨m, hm⟩, hspec, -⟩ := parts_of_mapsIn h
  have hnullable : nullable k.readStatus v = some (some kept) := by
    cases v with
    | null => cases k <;> cases hv
    | _ =>
      show (k.readStatus _).map some = _
      rw [hv]
      rfl
  rw [mapsIn_obj, if_pos (hset.unique hunique), hset.required_of_ne (by decide), hm,
    hset.required_of_ne (by decide),
    hspec, hset.optional_self, hnullable]
  rfl

/-- What the status of an object is after a write. -/
theorem readStatus_merge_under {ms : List (String × Json)}
    (h : k.mapsIn (.obj (Json.writtenMembers ms)) = some maps) (handler : String)
    (values : Dict String) :
    k.readStatus ((((Json.obj ms).get? "status").getD .null).merge
      (statusMembers handler values)).written =
      some ((keptUnder (.obj ms) maps).overlay handler values) := by
  obtain ⟨hunique, -, -, hstatus⟩ := parts_of_mapsIn h
  have hnothing : k.readStatus ((Json.obj []).merge (statusMembers handler values)).written =
      some (HandlerMaps.overlay .empty handler values) :=
        readStatus_merge (by cases k <;> rfl) handler values
  have hvalues : Reader.values (Json.writtenMembers ms) "status" =
      (((Json.obj ms).get? "status").map Json.written).toList :=
    values_written hunique (by decide)
  unfold keptUnder
  cases hy : (Json.obj ms).get? "status" with
  | none => exact hnothing
  | some y =>
    cases y with
    | obj members =>
      rw [hy] at hvalues
      rw [optional_of_values hvalues] at hstatus
      obtain ⟨kept, hkept, rfl⟩ := Option.map_eq_some_iff.1 hstatus
      exact readStatus_merge hkept handler values
    | _ => exact hnothing

/-- The patch of a write. -/
theorem statusPatch_eq (version : Option String) (handler : String) (values : Dict String) :
    statusPatch version handler values = .obj ((version.map fun v =>
      ("metadata", Json.obj [("resourceVersion", .str v)])).toList ++
        [("status", statusMembers handler values)]) := by
  cases version with
  | none => rfl
  | some v =>
    show Json.obj (Dict.ofList [("metadata", Json.obj [("resourceVersion", .str v)]),
      ("status", statusMembers handler values)]).entries = _
    have hsorted : ¬"status" < "metadata" := by decide
    simp [Dict.ofList, Dict.insert, Dict.insertEntry, Dict.empty, hsorted]

/-- The status is not what is set with the metadata. -/
theorem keptUnder_setMember_metadata (x : Json) (ms : List (String × Json))
    (maps : Option HandlerMaps) :
    keptUnder (.obj (setMember "metadata" x ms)) maps = keptUnder (.obj ms) maps := by
  unfold keptUnder
  rw [Json.get?_obj, Json.get?_obj, Json.valuesOf_setMember, if_neg (by decide)]

/-- A write that is merged into an object without a version overlays the map of its handler. -/
theorem mapsIn_merge_status {ms : List (String × Json)}
    (h : k.mapsIn (.obj (Json.writtenMembers ms)) = some maps) (handler : String)
    (values : Dict String) :
    k.mapsIn (.obj (Json.writtenMembers
      (Json.mergeMembers ms [("status", statusMembers handler values)]))) =
      some (some ((keptUnder (.obj ms) maps).overlay handler values)) := by
  rw [Json.mergeMembers_cons _ _ (by intro h; cases h)]
  show k.mapsIn (.obj (Json.writtenMembers (setMember _ _ ms))) = _
  rw [Json.writtenMembers_setMember]
  exact mapsIn_of_status (sets_setMember _ _ _) (readStatus_merge_under h handler values) h

/-- **What the handlers keep after a write.** When the patch of a write is merged into the document
of an object, the map of the handler is overlaid and the other maps stay. -/
theorem mapsIn_merge {ms : List (String × Json)} (h : k.mapsIn (Json.obj ms).written = some maps)
    (version : Option String) (handler : String) (values : Dict String) :
    k.mapsIn ((Json.obj ms).merge (statusPatch version handler values)).written =
      some (some ((keptUnder (.obj ms) maps).overlay handler values)) := by
  rw [statusPatch_eq]
  cases version with
  | none => exact mapsIn_merge_status h handler values
  | some v =>
    have hparts : k.mapsIn (.obj (Json.writtenMembers ms)) = some maps := h
    obtain ⟨hunique, ⟨m, hm⟩, -, -⟩ := parts_of_mapsIn hparts
    unfold required at hm
    rw [find?_eq_head?, values_written hunique (by decide)] at hm
    cases hx : (Json.obj ms).get? "metadata" with
    | none =>
      rw [hx] at hm
      cases hm
    | some x =>
      rw [hx] at hm
      -- The version is merged into the metadata first, which no other part is read from.
      show k.mapsIn (.obj (Json.writtenMembers (Json.mergeMembers ms
        [("metadata", .obj [("resourceVersion", .str v)]),
          ("status", statusMembers handler values)]))) = _
      rw [Json.mergeMembers_cons _ _ (by intro h; cases h), hx]
      have hafter := mapsIn_of_metadata (sets_setMember "metadata" _ _)
          (read_merge_version hm v) hparts
      rw [Option.getD_some, ← keptUnder_setMember_metadata]
      refine mapsIn_merge_status ?_ handler values
      show k.mapsIn (.obj (Json.writtenMembers (setMember _ _ ms))) = _
      rw [Json.writtenMembers_setMember]
      exact hafter

end TenantFleet
