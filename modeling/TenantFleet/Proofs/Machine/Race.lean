/-
# Passes that race

Passes of a machine may work on copies of its object that are no longer what is stored. Where a
server guards the versions of the object, only a pass that works on the stored document can write:
so no write is lost, and the stages that are stored one after the other are a path of the table.

* `Machine.Running` : a pass that has come to some moment, with the copy that it works on;
* `Machine.History` : what an object was stored as while passes raced, whatever others wrote;
* `Machine.Running.write` : what a pass is about to write, and what it does when the write is
  refused;
* `saves_in_turn` : writes take place one after the other.
-/
import Mathlib.Data.List.Chain
import TenantFleet.Proofs.Machine.Basic
import TenantFleet.Proofs.Masters.Stages
import TenantFleet.Proofs.Stage.Guarded
import TenantFleet.Proofs.Workers.Settlement

namespace TenantFleet

open Http Program

/-! ## Passes over copies -/

namespace Machine

/-- The passes of a machine over a copy of its object, with the delay after a write that was
refused. -/
inductive PassOn : Machine → Json → Nat → Program Nat → Prop
  /-- A pass over the masters of a cluster. -/
  | masters {copy : Json} {c : AzureConfig} (settings : PassSettings) (now : Timestamp)
    (hc : AzureConfig.read copy.written = some c) :
    PassOn masters copy settings.wait (Masters.ensure settings now c)
  /-- A pass over the workers of a pool. -/
  | workers {copy : Json} (x : Workers.Scope) (now : Timestamp)
    (hx : AzureMachinePool.read copy.written = some x.pool) :
    PassOn workers copy x.settings.wait (Workers.ensure x now)

/-- A pass of a machine that has come to some moment, whatever it was answered. -/
structure Running (m : Machine) where
  /-- The copy that the pass works on. -/
  copy : Json
  /-- The delay after a write that was refused. -/
  wait : Nat
  /-- The pass. -/
  program : Program Nat
  /-- What it has asked so far. -/
  asked : List Asked
  /-- What is left of it. -/
  rest : Program Nat
  isPass : m.PassOn copy wait program
  path : Path .any program () asked rest ()

/-- What the write of a pass is, and what the pass does when it is refused. -/
structure Writes (m : Machine) (copy : Json) (wait : Nat) (target : StatusTarget) (handler : String)
    (values : Dict String) (resume : Except Error Unit → Program Nat) : Prop where
  /-- The write is for the version of the copy. -/
  version : target.resourceVersion = copy.version
  /-- The write is that of the machine. -/
  handler : handler = m.handler
  /-- The map has a stage. -/
  staged : ∃ name, values.get? HandlerState.stageKey = some name
  /-- The stage comes after that of the copy. -/
  follows : m.Follows (m.stateIn copy) ⟨values⟩
  /-- The pass ends well when the write was refused because of its version. -/
  refused : ∀ e : Error, e.isConflict = true → resume (.error e) = .done (.ok wait)

/-- What a stage is kept with, from the outcome that it ends with. -/
theorem writes_of_eq {σ : Type} [Stage σ] [LawfulStage σ] {m : Machine} {copy : Json}
    {settings : PassSettings} {now : Timestamp} {target t : StatusTarget} {handler : String}
    {source : σ} {o : Outcome σ} {values : Dict String} {resume : Except Error Unit → Program Nat}
    (hversion : target.resourceVersion = copy.version)
    (hfollows : m.Follows (m.stateIn copy) (o.state.after o.transition now))
    (heq : (.ask (.saveStatus t handler values) resume : Program Nat) =
      .ask (.saveStatus target m.handler (o.state.after o.transition now).values)
        (afterWrite settings m.handler source o.transition)) :
    m.Writes copy settings.wait t handler values resume := by
  cases heq
  refine ⟨hversion, rfl, ⟨_, stage_after o.state o.transition now⟩, hfollows, ?_⟩
  intro e he
  unfold afterWrite
  dsimp only
  rw [if_pos he]

/-- What a pass is about to write. -/
theorem Running.write {m : Machine} (pass : m.Running) {ms : List (String × Json)}
    (hcopy : pass.copy = .obj ms) {target : StatusTarget} {handler : String} {values : Dict String}
    {resume : Except Error Unit → Program Nat}
    (hrest : pass.rest = .ask (.saveStatus target handler values) resume) :
    m.Writes pass.copy pass.wait target handler values resume := by
  obtain ⟨copy, wait, program, asked, rest, hpass, path⟩ := pass
  subst hcopy hrest
  cases hpass with
  | @masters _ c settings now hc =>
    obtain ⟨o, -, hfollows, heq⟩ := write_of_pass ((Masters.asks_stage settings c _ _).mono
      fun _ => MastersStage.keepsStatus_of_calls) path
    have hstate : stateIn .masters (.obj ms) = Masters.stateOf c := by
      show HandlerState.load ((AzureConfig.read _).map AzureConfig.maps).join _ = _
      rw [hc]
      rfl
    refine writes_of_eq (version_of_readConfig hc) ?_ heq
    show Stage.follows ((stateIn .masters (.obj ms)).stage MastersStage)
      ((o.state.after o.transition now).stage MastersStage) = true
    rw [hstate, stage_of_after]
    exact hfollows
  | workers x now hx =>
    obtain ⟨o, -, hfollows, heq⟩ := write_of_pass (Workers.keepsStatus_stage x _ _) path
    have hstate : stateIn .workers (.obj ms) = Workers.stateOf x.pool := by
      show HandlerState.load ((AzureMachinePool.read _).map AzureMachinePool.maps).join _ = _
      rw [hx]
      rfl
    refine writes_of_eq (version_of_readPool hx) ?_ heq
    show Stage.follows ((stateIn .workers (.obj ms)).stage WorkersStage)
      ((o.state.after o.transition now).stage WorkersStage) = true
    rw [hstate, stage_of_after]
    exact hfollows

/-! ## Stored objects -/

/-- Whether a document is one that the server may store: an object that can be read, with a version,
whose status is an object if there is one. -/
structure Sound (m : Machine) (x : Json) : Prop where
  isObject : ∃ ms, x = .obj ms
  readable : ∃ maps, m.kind.mapsIn x.written = some maps
  versioned : ∃ version, x.version = some version
  status : ∀ y, x.get? "status" = some y → y = .null ∨ ∃ ms, y = .obj ms

/-- What a write of a machine leaves: the map that was stored with the new one laid over it, in a
stage that may come after the one before, and all else as it was. -/
structure Saved (m : Machine) (values : Dict String) (x x' : Json) : Prop where
  map : m.stateIn x' = ⟨(m.stateIn x).values.overlay values⟩
  follows : m.Follows (m.stateIn x) (m.stateIn x')
  keeps : Keeps m.handler x x'

/-- A write is merged into the maps that were read. -/
theorem Sound.stateIn_keptUnder {m : Machine} {x : Json} (hx : m.Sound x)
    {maps : Option HandlerMaps} (hmaps : m.kind.mapsIn x.written = some maps) :
    HandlerState.load (some (keptUnder x maps)) m.handler = m.stateIn x := by
  have hstate : m.stateIn x = HandlerState.load maps m.handler := by
    unfold stateIn
    rw [hmaps]
    rfl
  rw [hstate]
  obtain ⟨ms, rfl⟩ := hx.isObject
  obtain ⟨hunique, -, -, hstatus⟩ :=
    parts_of_mapsIn (show m.kind.mapsIn (.obj (Json.writtenMembers ms)) = _ from hmaps)
  have hvalues : Reader.values (Json.writtenMembers ms) "status" =
      (((Json.obj ms).get? "status").map Json.written).toList :=
    Reader.values_written hunique (by decide)
  unfold keptUnder
  -- Without a status there are no maps, so it does not matter that nothing is merged into.
  cases hy : (Json.obj ms).get? "status" with
  | none =>
    rw [hy] at hvalues
    unfold Reader.optional at hstatus
    rw [hvalues] at hstatus
    cases hstatus
    rfl
  | some y =>
    rcases hx.status y hy with rfl | ⟨members, rfl⟩
    · rw [hy] at hvalues
      rw [Reader.optional_of_values hvalues] at hstatus
      cases hstatus
      rfl
    · cases maps <;> rfl

/-- A write of a machine that is merged under a new version leaves a document that may be stored. -/
theorem Sound.write {m : Machine} {x : Json} (hx : m.Sound x) (version : Option String)
    (next : String) {values : Dict String}
    (hstaged : ∃ name, values.get? HandlerState.stageKey = some name)
    (hfollows : m.Follows (m.stateIn x) ⟨values⟩) :
    m.Sound ((x.merge (statusPatch version m.handler values)).withVersion next) ∧
      m.Saved values x ((x.merge (statusPatch version m.handler values)).withVersion next) := by
  obtain ⟨ms, rfl⟩ := hx.isObject
  obtain ⟨maps, hmaps⟩ := hx.readable
  have hmerged := mapsIn_merge hmaps version m.handler values
  obtain ⟨patch, hpatch⟩ : ∃ patch, statusPatch version m.handler values = .obj patch :=
    ⟨_, statusPatch_eq version m.handler values⟩
  have hobject : (Json.obj ms).merge (statusPatch version m.handler values) =
      .obj (Json.mergeMembers ms patch) := by
    rw [hpatch]
    rfl
  have hread : m.kind.mapsIn
      (((Json.obj ms).merge (statusPatch version m.handler values)).withVersion next).written =
      some (some ((keptUnder (.obj ms) maps).overlay m.handler values)) := by
    rw [hobject] at hmerged ⊢
    exact mapsIn_withVersion hmerged next
  have hmap : m.stateIn (((Json.obj ms).merge (statusPatch version m.handler values)).withVersion
      next) = ⟨(m.stateIn (.obj ms)).values.overlay values⟩ := by
    have hload := load_overlay (keptUnder (.obj ms) maps) m.handler values
    rw [hx.stateIn_keptUnder hmaps] at hload
    unfold stateIn at hload ⊢
    rw [hread]
    exact hload
  have hstatus : ∀ y, (((Json.obj ms).merge (statusPatch version m.handler values)).withVersion
      next).get? "status" = some y → ∃ ms', y = .obj ms' := by
    intro y hy
    rw [Json.get?_withVersion _ _ (by decide), statusPatch_eq] at hy
    have hlast : ∀ z : Json, (z.merge (.obj [("status", statusMembers m.handler values)])).get?
        "status" = some y → ∃ ms', y = .obj ms' := by
      intro z hz
      rw [Json.get?_merge_single _ _ _ (by intro h; cases h), if_pos rfl] at hz
      exact ⟨_, (Option.some.inj hz).symm⟩
    cases version with
    | none => exact hlast _ hy
    | some v => exact hlast ((Json.obj ms).merge (.obj [Json.versionMember v])) hy
  refine ⟨⟨⟨_, rfl⟩, ⟨_, hread⟩, ⟨next, Json.version_withVersion _ _⟩, ?_⟩, hmap, ?_,
    keeps_write _ version m.handler values next⟩
  · exact fun y hy => Or.inr (hstatus y hy)
  · rw [hmap]
    obtain ⟨name, hname⟩ := hstaged
    refine hfollows.congr ?_
    dsimp only
    rw [Dict.get?_overlay, hname]
    rfl

/-! ## Histories -/

/-- What an object was stored as while passes of a machine worked on copies of it. -/
inductive History (m : Machine) : Versions → Prop
  /-- The object was stored for the first time. -/
  | first {x : Json} (hx : m.Sound x) : m.History ⟨x, []⟩
  /-- Others stored the object under a new version, and left the map of the machine. -/
  | others {v : Versions} {x : Json} (before : m.History v) (hx : m.Sound x)
    (hfresh : ∀ version, x.version = some version → v.Fresh version)
    (hmap : m.stateIn x = m.stateIn v.current) : m.History (v.push x)
  /-- A pass that works on what was stored at some time sent its write. -/
  | write {v v' : Versions} (before : m.History v) (pass : m.Running) (hcopy : pass.copy ∈ v.all)
    {target : StatusTarget} {handler : String} {values : Dict String}
    {resume : Except Error Unit → Program Nat}
    (hrest : pass.rest = .ask (.saveStatus target handler values) resume)
    {link : Link KubeError Versions} (hlink : Guards link) {service : KubeService}
    {r : Except KubeError Unit}
    (hrun : (Management.save service target handler values).run link v = (r, v')) : m.History v'

/-- What holds of all documents that an object was stored as. -/
structure Orderly (m : Machine) (v : Versions) : Prop where
  /-- Each of them may be stored. -/
  sound : ∀ x ∈ v.all, m.Sound x
  /-- No version is used twice. -/
  distinct : v.all.Pairwise fun x y => x.version ≠ y.version
  /-- The stages are a path of the table. -/
  path : v.all.IsChain fun x' x => m.Follows (m.stateIn x) (m.stateIn x')

/-- An object that was stored once is orderly. -/
theorem Orderly.first {m : Machine} {x : Json} (hx : m.Sound x) : m.Orderly ⟨x, []⟩ where
  sound _ hy := by
    cases List.mem_singleton.1 hy
    exact hx
  distinct := List.pairwise_singleton _ x
  path := .singleton x

/-- An object stays orderly under a new version, in a stage that may come next. -/
theorem Orderly.push {m : Machine} {v : Versions} (hv : m.Orderly v) {x : Json} (hx : m.Sound x)
    (hfresh : ∀ version, x.version = some version → v.Fresh version)
    (hfollows : m.Follows (m.stateIn v.current) (m.stateIn x)) : m.Orderly (v.push x) where
  sound y hy := by
    rcases List.mem_cons.1 hy with rfl | hy
    · exact hx
    · exact hv.sound y hy
  distinct := by
    refine List.pairwise_cons.2 ⟨fun y hy hsame => ?_, hv.distinct⟩
    obtain ⟨version, hversion⟩ := hx.versioned
    exact hfresh version hversion y hy (hsame.symm.trans hversion)
  path := List.isChain_cons_cons.2 ⟨hfollows, hv.path⟩

/-- Only one document has the version that is stored. -/
theorem Orderly.eq_current {m : Machine} {v : Versions} (hv : m.Orderly v) {x : Json}
    (hx : x ∈ v.all) (hversion : x.version = v.current.version) : x = v.current := by
  rcases List.mem_cons.1 hx with h | h
  · exact h
  · exact absurd hversion.symm ((List.pairwise_cons.1 hv.distinct).1 x h)

/-- The write of a pass changes nothing when the copy is not what is stored, and the pass ends well
if it is told so; or the copy is what is stored, and the write is merged into it. -/
theorem Orderly.write {m : Machine} {v v' : Versions} (hv : m.Orderly v) (pass : m.Running)
    (hcopy : pass.copy ∈ v.all) {target : StatusTarget} {handler : String} {values : Dict String}
    {resume : Except Error Unit → Program Nat}
    (hrest : pass.rest = .ask (.saveStatus target handler values) resume)
    {link : Link KubeError Versions} (hlink : Guards link) {service : KubeService}
    {r : Except KubeError Unit}
    (hrun : (Management.save service target handler values).run link v = (r, v')) :
    (v' = v ∧ (pass.copy ≠ v.current →
        (Management.save service target handler values).Answered link v →
          resume (r.mapError .kube) = .done (.ok pass.wait))) ∨
      (pass.copy = v.current ∧ ∃ x', v' = v.push x' ∧ m.Orderly v' ∧
        m.Saved values v.current x') := by
  obtain ⟨ms, hms⟩ := (hv.sound pass.copy hcopy).isObject
  obtain ⟨version, hversion⟩ := (hv.sound pass.copy hcopy).versioned
  have hwrites := pass.write hms hrest
  have hsome : target.resourceVersion.isSome = true := by
    rw [hwrites.version, hversion]
    rfl
  rcases save_cases hlink hrun with ⟨hsame, hlost⟩ | ⟨hcurrent, next, hfresh, hpush⟩
  · left
    refine ⟨hsame, fun hne hanswered => ?_⟩
    have hstale : target.resourceVersion ≠ v.current.version := by
      rw [hwrites.version]
      exact fun h => hne (hv.eq_current hcopy h)
    obtain ⟨e, hconflict, rfl⟩ := hlost hsome hstale hanswered
    exact hwrites.refused (.kube e) hconflict
  · right
    have hcopied : pass.copy = v.current :=
      hv.eq_current hcopy (hwrites.version.symm.trans (hcurrent hsome))
    refine ⟨hcopied, _, hpush, ?_⟩
    have hfollows := hwrites.follows
    rw [hcopied] at hfollows
    have hwritten := (hv.sound v.current List.mem_cons_self).write target.resourceVersion next
      hwrites.staged hfollows
    rw [hpush, hwrites.handler]
    refine ⟨hv.push hwritten.1 ?_ hwritten.2.follows, hwritten.2⟩
    intro version' hversion'
    rw [Json.version_withVersion] at hversion'
    cases hversion'
    exact hfresh

/-- An object is orderly throughout its history. -/
theorem History.orderly {m : Machine} {v : Versions} (h : m.History v) : m.Orderly v := by
  induction h with
  | first hx => exact .first hx
  | others before hx hfresh hmap ih =>
    refine ih.push hx hfresh ?_
    rw [hmap]
    exact .refl m _
  | write before pass hcopy hrest hlink hrun ih =>
    rcases ih.write pass hcopy hrest hlink hrun with ⟨rfl, -⟩ | ⟨-, x', -, hv', -⟩
    · exact ih
    · exact hv'

end Machine

/-! ## Writes in turn -/

/-- Writes take place one after the other. The stages that were stored are a path of the table; and
a pass that works on what was stored at any time either changes nothing with its write, and ends
well with the delay for a write that was refused when it is answered that the copy is no longer what
is stored, or works on what is stored, and its write changes the map of the machine there and
nothing else. -/
theorem saves_in_turn (m : Machine) {v : Versions} (hv : m.History v) :
    (v.all.IsChain fun x' x => m.Follows (m.stateIn x) (m.stateIn x')) ∧
      ∀ pass : m.Running, pass.copy ∈ v.all →
        ∀ target handler values resume,
          pass.rest = .ask (.saveStatus target handler values) resume →
        ∀ link, Guards link → ∀ service r v',
          (Management.save service target handler values).run link v = (r, v') →
            (v' = v ∧ (pass.copy ≠ v.current →
                (Management.save service target handler values).Answered link v →
                  resume (r.mapError .kube) = .done (.ok pass.wait))) ∨
              (pass.copy = v.current ∧ ∃ x', v' = v.push x' ∧ m.Saved values v.current x') := by
  refine ⟨hv.orderly.path, ?_⟩
  intro pass hcopy target handler values resume hrest link hlink service r v' hrun
  rcases hv.orderly.write pass hcopy hrest hlink hrun with hsame | ⟨hcopied, x', hpush, -, hsaved⟩
  · exact Or.inl hsame
  · exact Or.inr ⟨hcopied, x', hpush, hsaved⟩

/-! ## Two passes that race -/

/-- A version that nothing was stored under: it is longer than all that were used. -/
def Versions.next (v : Versions) : String :=
  v.all.foldr (fun x longer => x.version.getD "" ++ longer) "1"

/-- Nothing was stored under the next version. -/
theorem Versions.fresh_next (v : Versions) : v.Fresh v.next := by
  have hlonger : ∀ l : List Json, ∀ x ∈ l, (x.version.getD "").length <
      (l.foldr (fun x longer => x.version.getD "" ++ longer) "1").length := by
    intro l
    induction l with
    | nil => exact fun x hx => by cases hx
    | cons y l ih =>
      have hpositive : 0 < (l.foldr (fun x longer => x.version.getD "" ++ longer) "1").length := by
        cases l with
        | nil => decide
        | cons z l => exact (Nat.zero_le _).trans_lt (ih z List.mem_cons_self)
      intro x hx
      rw [List.foldr_cons, String.length_append]
      rcases List.mem_cons.1 hx with rfl | hx
      · omega
      · have := ih x hx
        omega
  intro x hx hversion
  have hlength := hlonger v.all x hx
  rw [hversion] at hlength
  exact Nat.lt_irrefl _ hlength

/-- A server that guards the versions of an object, and never fails. -/
def guardingServer : Link KubeError Versions := fun request v =>
  match request.body with
  | some (.mergePatch change) =>
    if change.version.isSome = true ∧ change.version ≠ v.current.version then (.ok ⟨409, [], ""⟩, v)
    else (.ok ⟨200, [], ""⟩, v.push ((v.current.merge change).withVersion v.next))
  | _ => (.ok ⟨404, [], ""⟩, v)

/-- The server guards the versions. -/
theorem guards_guardingServer : Guards guardingServer := by
  intro request change v r v' _ hbody heq
  unfold guardingServer at heq
  rw [hbody] at heq
  dsimp only at heq
  split at heq
  · rename_i hstale
    rw [if_pos hstale]
    cases heq
    refine ⟨rfl, ?_⟩
    rintro _ ⟨⟩
    exact ⟨by decide, by decide⟩
  · rename_i hcurrent
    rw [if_neg hcurrent]
    cases heq
    exact Or.inr ⟨v.next, v.fresh_next, rfl⟩

/-- A cluster whose scale set is not there yet. -/
def racedConfig : AzureConfig :=
  { Masters.smallConfig with
    metadata := { Masters.smallConfig.metadata with resourceVersion := some "7" } }

/-- What a pass over the cluster comes to. -/
def racedOutcome : Outcome MastersStage :=
  ⟨.advance .deploymentUninitialized, Masters.stateOf racedConfig⟩

/-- The map that it keeps. -/
def racedValues : Dict String := (racedOutcome.state.after racedOutcome.transition ⟨0, 0⟩).values

/-- What it asks before. -/
def racedAsked : List Asked :=
  [⟨.cloud racedConfig.group.account racedConfig.group.name
    (.getScaleSet (Masters.scaleSetOf racedConfig)), .error (.notFound "scale set")⟩]

/-- The stage of the cluster comes to the outcome. -/
theorem yields_raced : Program.Yields (Masters.stage Masters.smallSettings racedConfig
    (Masters.stateOf racedConfig) ((Masters.stateOf racedConfig).stage MastersStage)) racedAsked
      racedOutcome := by
  have hstage : (Masters.stateOf racedConfig).stage MastersStage = .empty := by decide +kernel
  rw [hstage]
  refine Masters.yields_keeping.2 ⟨rfl, Program.yields_bind.2 ⟨none, racedAsked, [], rfl, ?_, ?_⟩⟩
  · exact Program.yields_find?.2 (Or.inr ⟨_, by decide, rfl, rfl⟩)
  · exact Program.yields_done.2 ⟨rfl, rfl⟩

/-- A pass over the cluster that is about to make its write. -/
def racedPass : Machine.masters.Running where
  copy := racedConfig.toJson
  wait := Masters.smallSettings.wait
  program := Masters.ensure Masters.smallSettings ⟨0, 0⟩ racedConfig
  asked := racedAsked
  rest := .ask (.saveStatus (StatusTarget.ofConfig racedConfig) Masters.handler racedValues)
    (afterWrite Masters.smallSettings Masters.handler
      ((Masters.stateOf racedConfig).stage MastersStage) racedOutcome.transition)
  isPass := .masters Masters.smallSettings ⟨0, 0⟩ (by decide +kernel)
  path := by
    rw [Masters.ensure_eq]
    refine (List.append_nil racedAsked) ▸ Path.second yields_raced ?_
    rw [persist_eq _ _ _ _ (by decide +kernel)]
    exact .here _ ()

/-- The write of such a pass. -/
def racedWrite : Exchange KubeError Unit :=
  Management.save ⟨"https://api.example.io", none⟩ (StatusTarget.ofConfig racedConfig)
    Masters.handler racedValues

/-- What becomes of the write. -/
def racedSave (v : Versions) : Except KubeError Unit × Versions := racedWrite.run guardingServer v

/-- What is stored before the race. -/
def racedStart : Versions := ⟨racedConfig.toJson, []⟩

/-- Of two passes that work on the same copy, one writes, and the other one changes nothing and ends
well. -/
theorem saves_in_turn_raced :
    Machine.masters.History racedStart ∧ Machine.masters.History (racedSave racedStart).2 ∧
      (∃ x', (racedSave racedStart).2 = racedStart.push x' ∧
        Machine.masters.Saved racedValues racedStart.current x') ∧
      (racedSave (racedSave racedStart).2).2 = (racedSave racedStart).2 ∧
      ∃ resume, racedPass.rest =
          .ask (.saveStatus (StatusTarget.ofConfig racedConfig) Masters.handler racedValues)
            resume ∧
        resume ((racedSave (racedSave racedStart).2).1.mapError .kube) =
          .done (.ok Masters.smallSettings.wait) := by
  have hstart : Machine.masters.History racedStart :=
    .first ⟨⟨_, rfl⟩, Option.isSome_iff_exists.1 (by decide +kernel), ⟨"7", by decide +kernel⟩,
      fun y hy => by cases hy⟩
  have hrun : ∀ v, racedWrite.run guardingServer v = ((racedSave v).1, (racedSave v).2) :=
    fun _ => rfl
  have hpushed : (racedSave racedStart).2 ≠ racedStart := by
    intro h
    have hlength : (racedSave racedStart).2.all.length = 2 := by decide +kernel
    rw [h] at hlength
    cases hlength
  have hcopy : racedPass.copy ∈ racedStart.all := List.mem_cons_self
  have hfirst := (saves_in_turn .masters hstart).2 racedPass hcopy _ _ _ _ rfl guardingServer
    guards_guardingServer _ _ _ (hrun racedStart)
  obtain ⟨-, x', hpush, hsaved⟩ := hfirst.resolve_left fun h => hpushed h.1
  have hhistory : Machine.masters.History (racedSave racedStart).2 :=
    .write hstart racedPass hcopy rfl guards_guardingServer (hrun racedStart)
  have hstale : racedPass.copy ≠ (racedSave racedStart).2.current := by
    intro h
    have hversion : (racedSave racedStart).2.current.version ≠ racedConfig.toJson.version := by
      decide +kernel
    exact hversion (congrArg Json.version h).symm
  have hknown : racedPass.copy ∈ (racedSave racedStart).2.all := by
    rw [hpush]
    exact List.mem_cons_of_mem _ hcopy
  have hsecond := (saves_in_turn .masters hhistory).2 racedPass hknown _ _ _ _ rfl guardingServer
    guards_guardingServer _ _ _ (hrun (racedSave racedStart).2)
  obtain ⟨hsame, hlost⟩ := hsecond.resolve_right fun h => hstale h.1
  refine ⟨hstart, hhistory, ⟨x', hpush, hsaved⟩, hsame, _, rfl, hlost hstale ?_⟩
  -- A write that changed what is stored was sent.
  rcases save_eq ⟨"https://api.example.io", none⟩ (StatusTarget.ofConfig racedConfig)
    Masters.handler racedValues with ⟨e, hsave⟩ | ⟨request, answer, -, hbody, hsave, -⟩
  · refine absurd ?_ hpushed
    show (racedWrite.run guardingServer racedStart).2 = racedStart
    rw [show racedWrite = _ from hsave]
    rfl
  · show racedWrite.Answered guardingServer (racedSave racedStart).2
    rw [show racedWrite = _ from hsave]
    show ∃ reply, (guardingServer request (racedSave racedStart).2).1 = .ok reply
    unfold guardingServer
    rw [hbody]
    dsimp only
    split <;> exact ⟨_, rfl⟩

end TenantFleet
