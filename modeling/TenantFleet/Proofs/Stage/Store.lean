/-
# What a handler finds of what it saved

A write of a handler is merged into the stored object. So a handler finds all that it saved, but
also whatever was stored before and is not in the map that it saved: a deployment that was forgotten
is found again.

* `Merges` : that a server merges the patches that it accepts into its document;
* `HandlerState.Edited` : what a pass makes of a map before it saves it;
* `loaded_eq_saved_iff` : when a handler finds exactly what it saved.
-/
import TenantFleet.Fleet.Kubernetes
import TenantFleet.Json.Printer
import TenantFleet.Proofs.Stage.Status
import TenantFleet.Stage.Workers

namespace TenantFleet

open Http

/-! ## Servers -/

/-- Whether a link leads to a server that keeps one document and merges the patches that it accepts
into it. -/
def Merges (link : Link KubeError Json) : Prop :=
  ∀ request change x reply x', request.method = .patch → request.body = some (.mergePatch change) →
    link request x = (.ok reply, x') → reply.failure = false → x' = x.merge change

variable {link : Link KubeError Json} {x x' : Json}

/-- A request to a path is the one that was asked for, signed. -/
theorem request_of_located {s : KubeService} {path : Except KubeError String} {r : String → Request}
    {request : Request} (h : (path.bind fun p => s.located p r) = .ok request) :
    ∃ url, request = { r url with authorization := s.authorization } := by
  cases path with
  | error e => cases h
  | ok p =>
    replace h : s.located p r = .ok request := h
    unfold KubeService.located at h
    split at h
    · exact ⟨_, (Except.ok.inj h).symm⟩
    · cases h

/-- A value that was read is that of a reply that is no failure. -/
theorem not_failure_of_kubeValue {α : Type} {read : Reader α} {reply : Reply} {a : α}
    (h : kubeValue read reply = .ok a) :
    reply.failure = false := by
  unfold kubeValue at h
  split at h
  · cases h
  · rename_i hfailure
    exact Bool.eq_false_iff.2 hfailure

/-- A change of a status that succeeds was merged. -/
theorem merged_of_patchStatus {α : Type} {s : KubeService} {read : Reader α} {kind : ObjectKind}
    {space : Option String} {name : String} {change : Json} {a : α} (hlink : Merges link)
    (h : (s.patchStatus read kind space name change).run link x = (.ok a, x')) :
    x' = x.merge change := by
  unfold KubeService.patchStatus KubeService.send at h
  split at h
  · rename_i request hrequest
    obtain ⟨url, rfl⟩ := request_of_located hrequest
    unfold Exchange.run at h
    split at h
    · rename_i reply w hreply
      obtain ⟨hvalue, rfl⟩ := Prod.mk.inj h
      exact hlink _ _ _ _ _ rfl rfl hreply (not_failure_of_kubeValue hvalue)
    · cases h
  · cases h

/-- A write that succeeds was merged. -/
theorem merged_of_save {s : KubeService} {target : StatusTarget} {handler : String}
    {values : Dict String} (hlink : Merges link)
    (h : (Management.save s target handler values).run link x = (.ok (), x')) :
    x' = x.merge (statusPatch target.resourceVersion handler values) := by
  have hmap :
      ∀ {α : Type} {e : Exchange KubeError α}, (e.map fun _ => ()).run link x = (.ok (), x') →
      ∃ a, e.run link x = (.ok a, x') := by
    intro α e he
    unfold Exchange.map at he
    rw [Exchange.run_bind] at he
    split at he
    · rename_i a w hrun
      obtain ⟨-, rfl⟩ := Prod.mk.inj he
      exact ⟨a, hrun⟩
    · cases he
  unfold Management.save at h
  dsimp only at h
  split at h
  · obtain ⟨a, ha⟩ := hmap h
    exact merged_of_patchStatus hlink ha
  · obtain ⟨a, ha⟩ := hmap h
    exact merged_of_patchStatus hlink ha

/-! ## Maps between two writes -/

namespace HandlerState

/-- What a pass may make of the map of a handler: it sets stages, checksums and times and clears
checksums, in any order. -/
inductive Edited (s : HandlerState) : HandlerState → Prop
  /-- The map as it is. -/
  | same : Edited s s
  /-- Another stage. -/
  | setStage {t : HandlerState} {σ : Type} [Stage σ] (before : Edited s t) (stage : σ) :
    Edited s (t.setStage stage)
  /-- The checksums of a deployment. -/
  | setChecksums {t : HandlerState} (before : Edited s t) (template parameters : String) :
    Edited s (t.setChecksums template parameters)
  /-- No checksums. -/
  | clearChecksums {t : HandlerState} (before : Edited s t) : Edited s t.clearChecksums
  /-- The time of a wait. -/
  | touch {t : HandlerState} (before : Edited s t) (now : Timestamp) : Edited s (t.touch now)

/-- The keys of a deployment. -/
def checksumKeys : List String := [templateKey, parametersKey]

variable {s t : HandlerState}

/-- Only the keys of a deployment are ever removed. -/
theorem Edited.contains (h : Edited s t) {key : String} (hkey : key ∉ checksumKeys)
    (hs : s.values.contains key = true) :
    t.values.contains key = true := by
  have hinsert : ∀ (d : Dict String) (name value : String), d.contains key = true →
      (d.insert name value).contains key = true := by
    intro d name value hd
    unfold Dict.contains at hd ⊢
    rw [Dict.get?_insert]
    split
    · rfl
    · exact hd
  have hne : templateKey ≠ key ∧ parametersKey ≠ key := by
    refine ⟨?_, ?_⟩
    · rintro rfl
      exact hkey List.mem_cons_self
    · rintro rfl
      exact hkey (List.mem_cons_of_mem _ List.mem_cons_self)
  induction h with
  | same => exact hs
  | setStage before stage ih => exact hinsert _ _ _ ih
  | setChecksums before template parameters ih => exact hinsert _ _ _ (hinsert _ _ _ ih)
  | clearChecksums before ih =>
    unfold Dict.contains HandlerState.clearChecksums at *
    rw [Dict.get?_erase_of_ne _ hne.2, Dict.get?_erase_of_ne _ hne.1]
    exact ih
  | touch before now ih => exact hinsert _ _ _ ih

end HandlerState

/-! ## What is found again -/

variable {service : KubeService} {target : StatusTarget} {handler : String}
  {ms : List (String × Json)}
  {maps : Option HandlerMaps} {saved : HandlerState}

/-- What a handler finds after a write was merged. -/
theorem load_overlay (kept : HandlerMaps) (handler : String) (values : Dict String) :
    HandlerState.load (some (kept.overlay handler values)) handler =
      ⟨(HandlerState.load (some kept) handler).values.overlay values⟩ := by
  unfold HandlerState.load HandlerMaps.overlay
  rw [Option.bind_some, Dict.get?_insert_self]
  rfl

/-- After a write was merged, a handler finds what it saved exactly when nothing else was kept. -/
theorem load_overlay_eq_iff (kept : HandlerMaps) (handler : String) (saved : HandlerState) :
    HandlerState.load (some (kept.overlay handler saved.values)) handler = saved ↔
      ∀ key, (HandlerState.load (some kept) handler).values.contains key = true →
        saved.values.contains key = true := by
  rw [load_overlay]
  constructor
  · intro h
    exact (Dict.overlay_eq_iff _ _).1 (congrArg HandlerState.values h)
  · intro h
    exact congrArg HandlerState.mk ((Dict.overlay_eq_iff _ _).2 h)

/-- The map that a write is merged into is the one that was read, unless the status is replaced
as a whole. -/
theorem load_keptUnder_cases (handler : String) (x : Json) (maps : Option HandlerMaps) :
    HandlerState.load (some (keptUnder x maps)) handler = HandlerState.load maps handler ∨
      HandlerState.load (some (keptUnder x maps)) handler = {} := by
  unfold keptUnder
  split
  · left
    cases maps <;> rfl
  · exact Or.inr rfl

/-- **When a handler finds exactly what it saved.** After a map was made of the stored one and
saved, the object can be read, and the handler finds the map that it saved exactly when that has the
checksums of every deployment that the write was merged into. -/
theorem loaded_eq_saved_iff (hlink : Merges link)
    (hread : target.kind.mapsIn (Json.obj ms).written = some maps)
    (hedited : (HandlerState.load maps handler).Edited saved)
    (hsaved : (Management.save service target handler saved.values).run link (.obj ms) =
      (.ok (), x')) :
    ∃ maps', target.kind.mapsIn x'.written = some maps' ∧
      (HandlerState.load maps' handler = saved ↔
        ∀ key ∈ HandlerState.checksumKeys,
          (HandlerState.load (some (keptUnder (.obj ms) maps)) handler).values.contains key = true →
            saved.values.contains key = true) := by
  obtain rfl := merged_of_save hlink hsaved
  refine ⟨_, mapsIn_merge hread target.resourceVersion handler saved.values, ?_⟩
  rw [load_overlay_eq_iff]
  constructor
  · exact fun h key _ => h key
  · intro h key hkey
    by_cases hchecksum : key ∈ HandlerState.checksumKeys
    · exact h key hchecksum hkey
    · -- Every other key that was read is still there.
      rcases load_keptUnder_cases handler (.obj ms) maps with hbase | hbase
      · rw [hbase] at hkey
        exact hedited.contains hchecksum hkey
      · rw [hbase] at hkey
        cases hkey

/-! ## A deployment that failed -/

/-- A server that accepts every patch and answers with its document. -/
def mergingServer : Link KubeError Json := fun request x =>
  match request.method, request.body with
  | .patch, some (.mergePatch change) =>
    (.ok { status := 200, text := (x.merge change).render }, x.merge change)
  | _, _ => (.ok { status := 405 }, x)

theorem merges_mergingServer : Merges mergingServer := by
  intro request change x reply x' hmethod hbody h _
  unfold mergingServer at h
  rw [hmethod, hbody] at h
  exact (Prod.mk.inj h).2.symm

/-- The text of a document is read from its characters. -/
theorem parse?_render (y : Json) :
    Json.Written.parse? y.render =
      (Json.Token.scanFrom y.renderChars.length y.renderChars).bind Json.Written.ofTokens? := by
  unfold Json.Written.parse? Json.Token.scan Json.render
  rw [String.toList_ofList]

/-- Whether a document can be read as a pool when it is answered. -/
def PoolText (y : Json) : Prop :=
  ((Json.Written.parse? y.render).bind AzureMachinePool.read).isSome = true

/-- The server accepts a change after which the pool can be read. -/
theorem run_patchStatus (service : KubeService) {space name : String} {change : Json}
    (hname : name.isEmpty = false)
    (hpath : UrlPath.valid (AzureMachinePool.kind.collectionPath (some space) ++ "/" ++ name ++
      "/status") = true)
    (hread : PoolText (x.merge change)) :
    ∃ pool, (service.patchStatus AzureMachinePool.read AzureMachinePool.kind (some space) name
      change).run mergingServer x = (.ok pool, x.merge change) := by
  obtain ⟨pool, hpool⟩ := Option.isSome_iff_exists.1 hread
  have hvalue : kubeValue AzureMachinePool.read
      { status := 200, text := (x.merge change).render } = .ok pool := by
    unfold kubeValue
    dsimp only
    rw [hpool]
    rfl
  have hobject : AzureMachinePool.kind.objectPath (some space) name =
      .ok (AzureMachinePool.kind.collectionPath (some space) ++ "/" ++ name) := by
    unfold ObjectKind.objectPath
    rw [hname]
    rfl
  refine ⟨pool, ?_⟩
  unfold KubeService.patchStatus KubeService.send KubeService.located
  rw [hobject]
  dsimp only [Except.map, Except.bind]
  rw [if_pos hpath, ← hvalue]
  rfl

/-- The server accepts a write after which the pool can be read. -/
theorem run_save {service : KubeService} {target : StatusTarget} {handler : String}
    {values : Dict String} (hkind : target.kind = .azureMachinePool)
    (hname : target.name.isEmpty = false)
    (hpath : UrlPath.valid (AzureMachinePool.kind.collectionPath (some target.space) ++ "/" ++
      target.name ++ "/status") = true)
    (hread : PoolText (x.merge (statusPatch target.resourceVersion handler values))) :
    (Management.save service target handler values).run mergingServer x =
      (.ok (), x.merge (statusPatch target.resourceVersion handler values)) := by
  obtain ⟨pool, hrun⟩ := run_patchStatus service hname hpath hread
  unfold Management.save Exchange.map
  rw [hkind]
  dsimp only
  rw [Exchange.run_bind, hrun]
  rfl

/-- The members of a pool with a deployment that was submitted. -/
def submittedPool : List (String × Json) := [
  ("metadata", .obj [("name", .str "np1"), ("namespace", .str "default"),
    ("resourceVersion", .str "7")]),
  ("spec", .obj [("location", .str "westeurope"),
    ("template", .obj [("vmSize", .str "Standard_D4s_v3")])]),
  ("status", .obj [("resources", .obj [("nodepool", .obj [
    (HandlerState.stageKey, .str "DeploymentInitialized"), (HandlerState.templateKey, .str "t"),
    (HandlerState.parametersKey, .str "p")])])])]

/-- The pool as a target of writes. -/
def submittedTarget : StatusTarget := ⟨.azureMachinePool, "default", "np1", some "7"⟩

/-- What was kept for the pool. -/
def submittedMaps : Option HandlerMaps :=
  (submittedTarget.kind.mapsIn (Json.obj submittedPool).written).join

/-- The pool can be read. -/
theorem mapsIn_submittedPool :
    submittedTarget.kind.mapsIn (Json.obj submittedPool).written = some submittedMaps := by
  have hsome : (submittedTarget.kind.mapsIn (Json.obj submittedPool).written).isSome = true := by
    decide +kernel
  obtain ⟨maps, hmaps⟩ := Option.isSome_iff_exists.1 hsome
  rw [submittedMaps, hmaps]
  rfl

/-- The pool after a write was merged. -/
def writtenPool (saved : HandlerState) : Json :=
  (Json.obj submittedPool).merge (statusPatch (some "7") "nodepool" saved.values)

/-- The server accepts a write after which the pool can be read. -/
theorem save_submittedPool {saved : HandlerState} (hread : PoolText (writtenPool saved)) :
    (Management.save ⟨"https://kubernetes", none⟩ submittedTarget "nodepool" saved.values).run
      mergingServer (.obj submittedPool) = (.ok (), writtenPool saved) :=
  run_save rfl rfl (by decide +kernel) hread

/-- The map of the pool after its deployment has failed. -/
def forgottenState : HandlerState := (HandlerState.load submittedMaps "nodepool").clearChecksums

/-- A handler can find a deployment that it has forgotten. -/
theorem not_loaded_eq_saved :
    ¬ ∀ (link : Link KubeError Json) (service : KubeService) (target : StatusTarget)
      (handler : String) (ms : List (String × Json)) (maps : Option HandlerMaps)
      (saved : HandlerState) (x' : Json),
      Merges link → target.kind.mapsIn (Json.obj ms).written = some maps →
      (HandlerState.load maps handler).Edited saved →
      (Management.save service target handler saved.values).run link (.obj ms) = (.ok (), x') →
      ∃ maps', target.kind.mapsIn x'.written = some maps' ∧
        HandlerState.load maps' handler = saved := by
  intro hall
  have hread : PoolText (writtenPool forgottenState) := by
    unfold PoolText
    rw [parse?_render]
    decide +kernel
  obtain ⟨maps', hmaps, hload⟩ :=
    hall mergingServer ⟨"https://kubernetes", none⟩ submittedTarget "nodepool" submittedPool
      submittedMaps forgottenState _ merges_mergingServer mapsIn_submittedPool
      (.clearChecksums .same) (save_submittedPool hread)
  have hfound : (submittedTarget.kind.mapsIn (writtenPool forgottenState).written).map
      (HandlerState.load · "nodepool") ≠ some forgottenState := by decide +kernel
  rw [hmaps] at hfound
  exact hfound (congrArg some hload)

/-- The map of the pool after its deployment has succeeded. -/
def succeededState : HandlerState :=
  (HandlerState.load submittedMaps "nodepool").setStage WorkersStage.scaleUp

/-- A handler finds the stage that it saved with the deployment that it kept. -/
theorem loaded_eq_saved_submitted :
    Merges mergingServer ∧
      submittedTarget.kind.mapsIn (Json.obj submittedPool).written = some submittedMaps ∧
      (HandlerState.load submittedMaps "nodepool").Edited succeededState ∧
      ∃ maps', submittedTarget.kind.mapsIn (writtenPool succeededState).written = some maps' ∧
        HandlerState.load maps' "nodepool" = succeededState := by
  have hedited : (HandlerState.load submittedMaps "nodepool").Edited succeededState :=
    .setStage .same _
  have hread : PoolText (writtenPool succeededState) := by
    unfold PoolText
    rw [parse?_render]
    decide +kernel
  obtain ⟨maps', hmaps, hiff⟩ := loaded_eq_saved_iff merges_mergingServer mapsIn_submittedPool
    hedited (save_submittedPool hread)
  exact ⟨merges_mergingServer, mapsIn_submittedPool, hedited, maps', hmaps,
    hiff.2 (by decide +kernel)⟩

end TenantFleet
