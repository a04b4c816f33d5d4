/-
# Capacity while workers are replaced

A pass that removes the old workers takes them as it finds them. Whether as many new workers are
ready was looked at by another pass before, and is not looked at again. So a pass never removes more
than is replaced exactly when the workers that it finds are covered, and they are when they are
those that the other pass found.

* `Surveyed` : what a pass was answered when it looked at the workers;
* `Covered` : that the ready new workers are as many as the old ones;
* `removal_covered_iff` : when no pass removes more workers than are replaced.
-/
import TenantFleet.Proofs.Pass.Persist
import TenantFleet.Workers.Pass

namespace TenantFleet.Workers

open Program Program.Safe

variable {x : Scope} {S S' : ScaleSet} {L L' : List Instance} {N N' : List Node}
  {asked : List Asked}

/-! ## What a pass finds and does -/

/-- The workers that a scale set, its instances and the nodes of a pool make up. -/
def workersOf (x : Scope) (S : ScaleSet) (L : List Instance) (N : List Node) : Partition :=
  Partition.of x.scaleSet S.skuName L N x.settings.version

/-- Whether a pass looked at the workers and was answered this. -/
def Surveyed (x : Scope) (S : ScaleSet) (L : List Instance) (N : List Node)
    (trace : List Asked) : Prop :=
  [⟨.cloud x.account x.clusterId (.getScaleSet x.scaleSet), .ok S⟩,
    ⟨.cloud x.account x.clusterId (.listInstances x.scaleSet), .ok L⟩,
    ⟨.tenant x.space x.clusterId (.listNodes (some (Name.poolSelector x.poolName))), .ok N⟩] <:+:
      trace

/-- Whether the ready new workers are as many as the old ones. -/
def Covered (p : Partition) : Prop := p.old.length ≤ p.new.countP fun w => w.node.ready

instance (p : Partition) : Decidable (Covered p) := inferInstanceAs (Decidable (_ ≤ _))

/-- Whether the node or the instance of a worker was asked to be deleted. -/
def isRemoved (trace : List Asked) (w : Worker) : Bool :=
  trace.any fun a =>
    match a.call with
    | .tenant _ _ (.deleteNode name) => name = w.nodeName
    | .cloud _ _ (.deleteInstances _ ids) => w.inst.instanceId ∈ ids
    | _ => false

/-- A pass looks at the workers once: what comes after other calls is what was answered. -/
theorem Surveyed.unique
    (hbefore : ∀ a ∈ asked, a.call ≠ .cloud x.account x.clusterId (.getScaleSet x.scaleSet))
    (h : Surveyed x S' L' N' (asked ++ [
      ⟨.cloud x.account x.clusterId (.getScaleSet x.scaleSet), .ok S⟩,
      ⟨.cloud x.account x.clusterId (.listInstances x.scaleSet), .ok L⟩,
      ⟨.tenant x.space x.clusterId (.listNodes (some (Name.poolSelector x.poolName))), .ok N⟩])) :
    S' = S ∧ L' = L ∧ N' = N := by
  obtain ⟨before, after, h⟩ := h
  induction asked generalizing before with
  | nil =>
    have hlength := congrArg List.length h
    simp only [List.length_append, List.length_cons, List.length_nil] at hlength
    have hfirst : before = [] := List.length_eq_zero_iff.1 (by omega)
    have hlast : after = [] := List.length_eq_zero_iff.1 (by omega)
    subst hfirst hlast
    simpa using h
  | cons a rest ih =>
    cases before with
    | nil =>
      have ha := (List.cons.inj h).1
      exact absurd (congrArg Asked.call ha.symm) (hbefore a List.mem_cons_self)
    | cons b before =>
      exact ih (fun a ha => hbefore a (List.mem_cons_of_mem _ ha)) before (List.cons.inj h).2

/-! ## A pass that removes all it finds -/

/-- A usable tenant is found when the cluster is there to stay and can be reached. -/
theorem path_usableTenant (x : Scope) (cluster : Cluster) (hc : cluster.metadata.deleting = false) :
    Path .any (usableTenant? x) () [⟨.getCluster x.space x.clusterId, .ok (some cluster)⟩,
      ⟨.openTenant x.space x.clusterId, .ok true⟩]
      (done (.ok (some ⟨x.space, x.clusterId⟩))) () := by
  refine Path.askAny ?_
  show Path .any (if cluster.metadata.deleting then _ else _) () _ _ ()
  rw [hc]
  exact Path.askAny (Path.here _ ())

/-- The workers are found as they are answered. -/
theorem path_survey (x : Scope) (S : ScaleSet) (L : List Instance) (N : List Node) :
    Path .any (survey x ⟨x.space, x.clusterId⟩) () [
      ⟨.cloud x.account x.clusterId (.getScaleSet x.scaleSet), .ok S⟩,
      ⟨.cloud x.account x.clusterId (.listInstances x.scaleSet), .ok L⟩,
      ⟨.tenant x.space x.clusterId (.listNodes (some (Name.poolSelector x.poolName))), .ok N⟩]
      (done (.ok (S, workersOf x S L N))) () :=
  .askAny (.askAny (.askAny (.here _ ())))

/-- The nodes of all workers of a list are removed when nothing fails. -/
theorem path_removeWorkers (x : Scope) (tenant : Tenant) (l : List Worker) :
    Path .any (forEach l (removeWorker x tenant)) ()
      (l.map fun w => ⟨.tenant tenant.space tenant.clusterId (.deleteNode w.nodeName), .ok ()⟩)
      (done (.ok ())) () := by
  induction l with
  | nil => exact .here _ ()
  | cons w rest ih =>
    have hfirst : Path .any (removeWorker x tenant w) ()
        [⟨.tenant tenant.space tenant.clusterId (.deleteNode w.nodeName), .ok ()⟩]
          (done (.ok ())) () :=
      .askAny (.note (.here _ ()))
    exact hfirst.second ih

/-- Whatever workers a pass may find, it can come to remove all that are old. -/
theorem exists_removal (now : Timestamp) (hstage : (stateOf x.pool).stage WorkersStage = .scaleDown)
    (S : ScaleSet) (L : List Instance) (N : List Node) :
    ∃ trace q, Path .any (ensure x now) () trace q () ∧ Surveyed x S L N trace ∧
      ∀ w ∈ (workersOf x S L N).old, isRemoved trace w = true := by
  have htenant := path_usableTenant x { metadata := {} } rfl
  have hremove := path_removeWorkers x ⟨x.space, x.clusterId⟩ (workersOf x S L N).old
  have hdown : ∃ q, Path .any (Workers.scaleDown x) () _ q () :=
    ⟨_, htenant.second ((path_survey x S L N).second hremove.first)⟩
  obtain ⟨q, hdown⟩ := hdown
  have hstep : Path .any (stage x (stateOf x.pool) .scaleDown) () _ _ () := hdown.first
  rw [← hstage] at hstep
  -- The pass is cut off once the nodes are removed: what follows does not matter.
  refine ⟨_, _, hstep.first, ?_, ?_⟩
  · exact ⟨_, _, (List.append_assoc _ _ _)⟩
  · intro w hw
    simp only [isRemoved, List.any_append, List.any_map, Bool.or_eq_true]
    right; right
    exact List.any_eq_true.2 ⟨w, hw, by simp⟩

/-! ## The pass that looks whether the new workers are ready -/

/-- What the passes over a pool are held to when they look at the workers: that the removal is only
asked for when the workers that were found are covered. -/
def looking (x : Scope) : Demand Unit where
  always _ _ := True
  issue asked _ c :=
    match c with
    | .saveStatus _ _ values =>
      values.get? HandlerState.stageKey = some (Stage.name WorkersStage.scaleDown) →
        ∀ S L N, Surveyed x S L N asked → Covered (workersOf x S L N)
    | _ => True

/-- Looking for the tenant comes before any look at the workers. -/
theorem safe_usableTenant (x : Scope) :
    Safe .any (looking x) (Well fun asked _ found =>
      (∀ a ∈ asked, a.call ≠ .cloud x.account x.clusterId (.getScaleSet x.scaleSet)) ∧
        ∀ tenant, found = some tenant → tenant = ⟨x.space, x.clusterId⟩)
          (usableTenant? x) [] () := by
  refine Safe.andThen (Q := fun asked _ _ =>
    ∀ a ∈ asked, a.call ≠ .cloud x.account x.clusterId (.getScaleSet x.scaleSet))
    (Safe.call trivial trivial ?_) ?_
  · intro r _ _
    refine ⟨trivial, fun _ _ a ha => ?_⟩
    rw [List.nil_append, List.mem_singleton] at ha
    rw [ha]
    simp
  · intro asked _ found _ hasked
    have hnone : ∀ tenant, none = some tenant → tenant = (⟨x.space, x.clusterId⟩ : Tenant) :=
      fun _ h => by cases h
    cases found with
    | none => exact Safe.pure trivial ⟨hasked, hnone⟩
    | some cluster =>
      dsimp only
      split
      · exact Safe.pure trivial ⟨hasked, hnone⟩
      · refine Safe.andThen (Q := fun asked _ _ =>
          ∀ a ∈ asked, a.call ≠ .cloud x.account x.clusterId (.getScaleSet x.scaleSet))
          (Safe.call trivial trivial ?_) ?_
        · intro r _ _
          refine ⟨trivial, fun _ _ a ha => ?_⟩
          rcases List.mem_append.1 ha with ha | ha
          · exact hasked a ha
          · rw [List.mem_singleton] at ha
            rw [ha]
            simp
        · intro asked _ reachable _ hasked
          refine Safe.pure trivial ⟨hasked, fun tenant h => ?_⟩
          cases reachable with
          | false => cases h
          | true => exact (Option.some.inj h).symm

/-- A look at the workers finds those that were answered. -/
theorem safe_survey (x : Scope)
    (hasked : ∀ a ∈ asked, a.call ≠ .cloud x.account x.clusterId (.getScaleSet x.scaleSet)) :
    Safe .any (looking x) (Well fun asked _ found =>
      ∀ S L N, Surveyed x S L N asked → found.2 = workersOf x S L N)
      (survey x ⟨x.space, x.clusterId⟩) asked () := by
  refine Safe.andThen (Q := fun asked' _ S => asked' = asked ++
    [⟨.cloud x.account x.clusterId (.getScaleSet x.scaleSet), .ok S⟩])
    (Safe.call trivial trivial ?_) ?_
  · rintro r _ _
    exact ⟨trivial, fun S hr => by rw [hr]; rfl⟩
  rintro _ _ S _ rfl
  refine Safe.andThen (Q := fun asked' _ L => asked' = asked ++
    [⟨.cloud x.account x.clusterId (.getScaleSet x.scaleSet), .ok S⟩,
      ⟨.cloud x.account x.clusterId (.listInstances x.scaleSet), .ok L⟩])
    (Safe.call trivial trivial ?_) ?_
  · rintro r _ _
    exact ⟨trivial, fun L hr => by rw [hr, List.append_assoc]; rfl⟩
  rintro _ _ L _ rfl
  refine Safe.andThen (Q := fun asked' _ N => asked' = asked ++
    [⟨.cloud x.account x.clusterId (.getScaleSet x.scaleSet), .ok S⟩,
      ⟨.cloud x.account x.clusterId (.listInstances x.scaleSet), .ok L⟩,
      ⟨.tenant x.space x.clusterId (.listNodes (some (Name.poolSelector x.poolName))), .ok N⟩])
    (Safe.call trivial trivial ?_) ?_
  · rintro r _ _
    exact ⟨trivial, fun N hr => by rw [hr, List.append_assoc]; rfl⟩
  rintro _ _ N _ rfl
  refine Safe.pure trivial ?_
  intro S' L' N' hsurvey
  obtain ⟨rfl, rfl, rfl⟩ := hsurvey.unique hasked
  rfl

/-- The removal follows only when the workers that were found are covered. -/
theorem safe_awaitReady (x : Scope) :
    Safe .any (looking x) (Well fun asked _ t => t.stage = WorkersStage.scaleDown →
      ∀ S L N, Surveyed x S L N asked → Covered (workersOf x S L N)) (awaitReady x) [] () := by
  have hstay : (x.stay .waitForWorkersToBecomeReady).stage ≠ WorkersStage.scaleDown := by
    show WorkersStage.waitForWorkersToBecomeReady ≠ .scaleDown
    decide
  refine (safe_usableTenant x).andThen ?_
  rintro asked _ found _ ⟨hasked, htenant⟩
  cases found with
  | none => exact Safe.pure trivial fun h => absurd h hstay
  | some tenant =>
    rw [htenant tenant rfl]
    refine (safe_survey x hasked).andThen ?_
    rintro asked _ ⟨scaleSet, workers⟩ _ hfound
    dsimp only
    split
    · -- All new workers are ready, so counting the ready ones counts them all.
      rename_i hready
      refine Safe.pure trivial fun _ S L N hsurvey => ?_
      rw [← hfound S L N hsurvey]
      have hall : workers.new.countP (fun w => w.node.ready) = workers.new.length :=
        List.countP_eq_length.2 (List.all_eq_true.1 hready.1)
      unfold Covered
      rw [hall]
      exact hready.2
    · exact Safe.pure trivial fun h => absurd h hstay

/-- A pass in the stage before the removal saves that stage only when the workers are covered. -/
theorem safe_ensure_awaitReady (now : Timestamp)
    (hstage : (stateOf x.pool).stage WorkersStage = .waitForWorkersToBecomeReady) :
    Safe .any (looking x) (Well fun _ _ _ => True) (ensure x now) [] () := by
  show Safe _ _ _
    (Program.bind (stage x (stateOf x.pool) ((stateOf x.pool).stage WorkersStage)) _) _ _
  rw [hstage]
  refine Safe.andThen (Q := fun asked _ o => o.transition.stage = WorkersStage.scaleDown →
    ∀ S L N, Surveyed x S L N asked → Covered (workersOf x S L N)) ?_ ?_
  · refine (safe_awaitReady x).andThen ?_
    intro asked _ t _ ht
    exact Safe.pure trivial ht
  · intro asked _ o _ ho
    refine safe_persist x.settings now handler (StatusTarget.ofPool x.pool) _ o trivial trivial ?_
      (fun _ _ _ => ⟨trivial, trivial⟩) fun _ _ _ _ _ => ⟨trivial, trivial⟩
    -- The stage that is written is that of the outcome.
    intro hsaved
    rw [stage_after] at hsaved
    apply ho
    rw [← WorkersStage.ofName_name o.transition.stage, Option.some.inj hsaved,
      WorkersStage.ofName_name]

/-! ## The capacity -/

/-- **When no pass removes more workers than are replaced.** Of the passes that find the same
workers in the stage of the removal, none removes more of them than there are ready new ones exactly
when they are covered; and they are when a pass in the stage before found the same and went on to
the removal. -/
theorem removal_covered_iff (x : Scope) (now : Timestamp)
    (hstage : (stateOf x.pool).stage WorkersStage = .scaleDown) (S : ScaleSet) (L : List Instance)
    (N : List Node) :
    ((∀ trace q, Path .any (ensure x now) () trace q () → Surveyed x S L N trace →
        (workersOf x S L N).old.countP (isRemoved trace) ≤
          (workersOf x S L N).new.countP fun w => w.node.ready) ↔
      Covered (workersOf x S L N)) ∧
    ∀ (x' : Scope) (now' : Timestamp),
      (stateOf x'.pool).stage WorkersStage = .waitForWorkersToBecomeReady →
      x'.scaleSet = x.scaleSet → x'.settings.version = x.settings.version →
      ∀ trace target key values resume,
        Path .any (ensure x' now') () trace (.ask (.saveStatus target key values) resume) () →
        values.get? HandlerState.stageKey = some (Stage.name WorkersStage.scaleDown) →
        Surveyed x' S L N trace → Covered (workersOf x S L N) := by
  constructor
  · constructor
    · intro hall
      obtain ⟨trace, q, path, hsurvey, hremoved⟩ := exists_removal now hstage S L N
      have h := hall trace q path hsurvey
      rw [List.countP_eq_length.2 hremoved] at h
      exact h
    · intro hcovered trace q _ _
      exact Nat.le_trans List.countP_le_length hcovered
  · intro x' now' hstage' hset hversion trace target key values resume path hsaved hsurvey
    have hsafe := (safe_ensure_awaitReady now' hstage').along path
    have hcovered := hsafe.2.1 hsaved S L N hsurvey
    unfold workersOf at hcovered ⊢
    rw [← hset, ← hversion]
    exact hcovered

/-! ## A pool that kept the stage of the removal -/

/-- What a handler keeps in the stage of the removal. -/
def keptMaps : HandlerMaps :=
  Dict.empty.insert handler
    (Dict.empty.insert HandlerState.stageKey (Stage.name WorkersStage.scaleDown))

/-- A pool that is kept in the stage of the removal. -/
def keptScope : Scope where
  settings := ⟨"ghost", ⟨5, 0, 0, [], []⟩, 30, 300⟩
  pool := {
    metadata := { name := some "np1", space := some "default" }
    location := "westeurope"
    vmSize := "Standard_D4s_v3"
    status := some { resources := keptMaps } }
  machinePool := {
    metadata := { name := some "np1", space := some "default" }
    clusterName := "abc12" }
  account := .cluster ⟨"credentials", "default"⟩

/-- The scale set of the pool. -/
def keptScaleSet : ScaleSet where
  location := "westeurope"
  sku := some { name := some "Standard_D4s_v3", capacity := some 2 }

/-- The instances of the pool. -/
def keptInstances : List Instance := [{ instanceId := "0" }, { instanceId := "1" }]

/-- The nodes of the pool: one of an older version, and one of the version of the operator. -/
def keptNodes (ready : Bool) : List Node :=
  let node (name version status : String) : Node :=
    { metadata := {
        name := some name
        labels := some ((Dict.empty.insert Label.operatorVersion version).insert
          Label.machinePool "np1") }
      conditions := [("Ready", status)] }
  [node "nodepool-np1-000000" "4.2.0" "True",
    node "nodepool-np1-000001" "5.0.0" (if ready then "True" else "False")]

/-- A pass can remove a worker while no new one is ready. -/
theorem not_removal_covered :
    ¬ ∀ (x : Scope) (now : Timestamp), (stateOf x.pool).stage WorkersStage = .scaleDown →
      ∀ S L N trace q, Path .any (ensure x now) () trace q () → Surveyed x S L N trace →
        (workersOf x S L N).old.countP (isRemoved trace) ≤
          (workersOf x S L N).new.countP fun w => w.node.ready := by
  intro hall
  have hstage : (stateOf keptScope.pool).stage WorkersStage = .scaleDown := by decide +kernel
  obtain ⟨trace, q, path, hsurvey, hremoved⟩ :=
    exists_removal ⟨0, 0⟩ hstage keptScaleSet keptInstances (keptNodes false)
  have h := hall keptScope ⟨0, 0⟩ hstage keptScaleSet keptInstances (keptNodes false) trace q path
    hsurvey
  rw [List.countP_eq_length.2 hremoved] at h
  exact absurd h (by decide +kernel)

/-- The pool is covered while its new worker is ready. -/
theorem removal_covered_kept :
    (stateOf keptScope.pool).stage WorkersStage = .scaleDown ∧
      (workersOf keptScope keptScaleSet keptInstances (keptNodes true)).old.length = 1 ∧
      ∀ trace q, Path .any (ensure keptScope ⟨0, 0⟩) () trace q () →
        Surveyed keptScope keptScaleSet keptInstances (keptNodes true) trace →
        (workersOf keptScope keptScaleSet keptInstances (keptNodes true)).old.countP
          (isRemoved trace) ≤
          (workersOf keptScope keptScaleSet keptInstances (keptNodes true)).new.countP fun w =>
            w.node.ready := by
  have hstage : (stateOf keptScope.pool).stage WorkersStage = .scaleDown := by decide +kernel
  have hcovered : Covered (workersOf keptScope keptScaleSet keptInstances (keptNodes true)) := by
    decide +kernel
  refine ⟨hstage, by decide +kernel, ?_⟩
  exact (removal_covered_iff keptScope ⟨0, 0⟩ hstage keptScaleSet keptInstances
    (keptNodes true)).1.2 hcovered

end TenantFleet.Workers
