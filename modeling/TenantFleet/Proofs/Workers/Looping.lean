/-
# Going through the old workers

Before the old workers are removed their nodes are closed for new work. A node that is closed is
still a node of its worker, so a pass that begins anew finds the same workers and closes those that
are left.

* `Partition.of_map` : the workers are the same when their nodes are closed;
* `lookForOld`, `closings` : what the stage looks for, and what it sees to;
* `cordonOld_eq_looping` : the stage as a looping pass;
* `resumable_lookForOld` : that a pass that begins anew closes those that are left.
-/
import TenantFleet.Proofs.Pass.Looping
import TenantFleet.Proofs.Masters.Looping
import TenantFleet.Proofs.Workers.Trial

namespace TenantFleet

open Program

/-- To go through some items is to go through all, when nothing is done for the others. -/
theorem Program.forEach_filter {α : Type} {keep : α → Bool} {step : α → Program Unit} (l : List α)
    (hstep : ∀ a, keep a = false → step a = .done (.ok ())) :
    forEach (l.filter keep) step = forEach l step := by
  induction l with
  | nil => rfl
  | cons a rest ih =>
    cases ha : keep a with
    | true =>
      rw [List.filter_cons_of_pos ha]
      exact congrArg (Program.bind (step a)) (funext fun _ => ih)
    | false =>
      rw [List.filter_cons_of_neg (by simp [ha]), ih]
      show _ = (step a).bind _
      rw [hstep a ha]
      rfl

/-- To go through items is to do what is done for them. -/
theorem Program.forEach_congr {α : Type} {step step' : α → Program Unit} {l : List α}
    (hstep : ∀ a ∈ l, step a = step' a) : forEach l step = forEach l step' := by
  induction l with
  | nil => rfl
  | cons a rest ih =>
    show (step a).bind _ = (step' a).bind _
    rw [hstep a List.mem_cons_self, ih fun b hb => hstep b (List.mem_cons_of_mem a hb)]

/-! ## Workers with other nodes -/

/-- A worker with its node changed. -/
def Worker.mapNode (f : Node → Node) (v : Worker) : Worker := { v with node := f v.node }

namespace Partition

variable {scaleSet : String} {size : Option String} {version : Version} {f : Node → Node}

/-- The workers are found again when their nodes are changed, but not the versions of these. -/
theorem collect_map (hversion : ∀ n, versionOf (f n) = versionOf n) (instances : List Instance)
    {nodes nodes' : Dict Node} (hnodes : ∀ key, nodes'.get? key = (nodes.get? key).map f) :
    collect scaleSet size version instances nodes' =
      { old := (collect scaleSet size version instances nodes).old.map (Worker.mapNode f)
        new := (collect scaleSet size version instances nodes).new.map (Worker.mapNode f) } := by
  induction instances generalizing nodes nodes' with
  | nil => rfl
  | cons v rest ih =>
    cases hnode : nodes.get? (nodeName scaleSet v.instanceId) with
    | none =>
      have hnode' : nodes'.get? (nodeName scaleSet v.instanceId) = none := by
        rw [hnodes, hnode]
        rfl
      rw [collect_cons_of_none hnode, collect_cons_of_none hnode']
      exact ih hnodes
    | some node =>
      have hnode' : nodes'.get? (nodeName scaleSet v.instanceId) = some (f node) := by
        rw [hnodes, hnode]
        rfl
      have herased : ∀ key, (nodes'.erase (nodeName scaleSet v.instanceId)).get? key =
          ((nodes.erase (nodeName scaleSet v.instanceId)).get? key).map f := by
        intro key
        rw [Dict.get?_erase, Dict.get?_erase, hnodes]
        split <;> rfl
      rw [collect_cons_of_some hnode, collect_cons_of_some hnode']
      dsimp only
      rw [ih herased, hversion]
      split
      · rfl
      · split <;> rfl

/-- The workers of a pool are found again when nodes are changed, but not their names and
versions. -/
theorem of_map (hname : ∀ n, (f n).name = n.name) (hversion : ∀ n, versionOf (f n) = versionOf n)
    (instances : List Instance) (nodes : List Node) :
    Partition.of scaleSet size instances (nodes.map f) version =
      { old := (Partition.of scaleSet size instances nodes version).old.map (Worker.mapNode f)
        new := (Partition.of scaleSet size instances nodes version).new.map
          (Worker.mapNode f) } := by
  refine collect_map hversion instances fun key => ?_
  have hnamed : (nodes.map f).map (fun n => (n.name, n)) =
      (nodes.map fun n => (n.name, n)).map fun x => (x.1, f x.2) := by
    rw [List.map_map, List.map_map]
    exact List.map_congr_left fun n _ => congrArg (·, f n) (hname n)
  unfold byName
  rw [hnamed]
  exact Dict.get?_ofList_map _ f key

end Partition

namespace Workers

variable {x : Scope} {w : World} {l : List Chore}

/-! ## The nodes of old workers -/

/-- What is to be closed: the nodes of the old workers that are open, once as many new ones have
joined. -/
def lookForOld (x : Scope) : Program (Option (List Chore)) := do
  match ← usableTenant? x with
  | none => return none
  | some tenant =>
    let (_, workers) ← survey x tenant
    if workers.new.length < workers.old.length then return none
    else return some ((workers.old.filter fun v => !v.node.unschedulable).map fun v =>
      .cordon tenant v.nodeName)

/-- To close the node of a worker is a chore. -/
theorem cordon_eq (t : Tenant) (node : String) : t.cordon node = (Chore.cordon t node).program := by
  refine congrArg (Program.ask _) (funext fun r => ?_)
  rcases r with e | d
  · dsimp only [Chore.verdict, Tenant.unlessMissing]
    split <;> rfl
  · rfl

/-- The stage goes through the nodes of the old workers. -/
theorem cordonOld_eq_looping (x : Scope) :
    cordonOld x = looping (lookForOld x) (.done (.ok (x.stay .cordonOldWorkers)))
      (.done (.ok (.advance .waitForWorkersToBecomeReady))) := by
  unfold cordonOld looping lookForOld
  simp only [bind_eq, bind_assoc]
  congr 1
  funext found
  cases found with
  | none => rfl
  | some tenant =>
    simp only [bind_assoc]
    congr 1
    funext surveyed
    split
    · rfl
    · have hopen : ∀ v : Worker, (!v.node.unschedulable) = false →
          cordonWorker tenant v = .done (.ok ()) := by
        intro v hv
        rw [cordonWorker, if_pos (by simpa using hv)]
        rfl
      have hclosing : ∀ v ∈ surveyed.2.old.filter (fun v => !v.node.unschedulable),
          cordonWorker tenant v = (Chore.cordon tenant v.nodeName).program := by
        intro v hv
        have hnot : ¬ v.node.unschedulable = true := by simpa using (List.mem_filter.1 hv).2
        rw [cordonWorker, if_neg hnot, cordon_eq]
      show _ = (forEach (List.map _ _) Chore.program).bind _
      rw [forEach_map, ← forEach_filter surveyed.2.old hopen, forEach_congr hclosing]
      rfl

/-! ## What is found -/

/-- The tenant cluster that a pass finds in a world. -/
def tenantIn (x : Scope) (w : World) : Option Tenant :=
  match Table.at? w.clusters x.space x.clusterId with
  | none => none
  | some cluster =>
    if cluster.metadata.deleting ∨ w.reachable = false then none else some ⟨x.space, x.clusterId⟩

/-- It is that of the pool. -/
theorem tenant_eq {t : Tenant} (ht : tenantIn x w = some t) : t = ⟨x.space, x.clusterId⟩ := by
  unfold tenantIn at ht
  split at ht
  · cases ht
  · split at ht
    · cases ht
    · exact (Option.some.inj ht).symm

/-- A pass finds the tenant cluster. -/
theorem run_usableTenant (x : Scope) (w : World) :
    run World.plain (usableTenant? x) w = (.ok (tenantIn x w), w) := by
  have hdeclared : run World.plain (Program.call (.getCluster x.space x.clusterId)) w =
      (.ok (Table.at? w.clusters x.space x.clusterId), w) := rfl
  have hopen : run World.plain (Tenant.open? x.space x.clusterId) w =
      (.ok (if w.reachable then some ⟨x.space, x.clusterId⟩ else none), w) := rfl
  unfold usableTenant? tenantIn
  rw [bind_eq, run_bind, hdeclared]
  cases Table.at? w.clusters x.space x.clusterId with
  | none => rfl
  | some cluster =>
    dsimp only
    cases cluster.metadata.deleting with
    | true => simp [run]
    | false =>
      rw [if_neg Bool.false_ne_true, hopen]
      cases w.reachable <;> simp

/-- A request that only looks is answered, and leaves the world. -/
theorem run_look (g : ResourceGroup) {k : CloudCall} {r : Except AzureError k.Answer}
    (hk : (w.subscription g.account).perform g.name k = (r, w.subscription g.account)) :
    run World.plain (g.call k) w = (r.mapError Error.azure, w) := by
  have hkept : w.setSubscription g.account (w.subscription g.account) = w := by
    cases g.account <;> rfl
  show ((((w.subscription g.account).perform g.name k).1.mapError Error.azure),
    w.setSubscription g.account ((w.subscription g.account).perform g.name k).2) = _
  rw [hk, hkept]

/-- A pass looks for the scale set. -/
theorem run_getScaleSet (x : Scope) (w : World) :
    run World.plain (x.group.call (.getScaleSet x.scaleSet)) w =
      ((Subscription.orMissing (x.scaleSet? w) ("vmss " ++ x.scaleSet)).mapError .azure, w) :=
  run_look (k := .getScaleSet x.scaleSet) x.group rfl

/-- A pass finds the workers of a pool with a scale set. -/
theorem run_survey {s : ScaleSet} (hs : x.scaleSet? w = some s) (t : Tenant) :
    run World.plain (survey x t) w = (.ok (s, workersIn x w), w) := by
  have hscaleSet : run World.plain (x.group.call (.getScaleSet x.scaleSet)) w = (.ok s, w) := by
    rw [run_getScaleSet, hs]
    rfl
  have hanswer : (w.subscription x.group.account).perform x.group.name (.listInstances x.scaleSet) =
      (.ok (x.instances w), w.subscription x.group.account) := by
    show (Subscription.orMissing ((x.scaleSet? w).map fun _ => x.instances w) _, _) = _
    rw [hs]
    rfl
  have hinstances : run World.plain (x.group.call (.listInstances x.scaleSet)) w =
      (.ok (x.instances w), w) :=
    run_look (k := .listInstances x.scaleSet) x.group hanswer
  have hnodes : run World.plain (t.nodes (Name.poolSelector x.poolName)) w =
      (.ok (nodesOf x w), w) := rfl
  unfold survey
  rw [bind_eq, run_bind, hscaleSet]
  dsimp only
  rw [bind_eq, run_bind, hinstances]
  dsimp only
  rw [bind_eq, run_bind, hnodes]
  simp only [workersIn, hs]
  rfl

/-- Whether the nodes of the old workers can be closed in a world. -/
structure Joined (x : Scope) (w : World) : Prop where
  tenant : tenantIn x w = some ⟨x.space, x.clusterId⟩
  scaleSet : (x.scaleSet? w).isSome = true
  enough : (workersIn x w).old.length ≤ (workersIn x w).new.length

/-- The nodes of old workers that are open. -/
def openNodes (x : Scope) (w : World) : List String :=
  ((workersIn x w).old.filter fun v => !v.node.unschedulable).map Worker.nodeName

/-- The chores of closing nodes. -/
def closings (x : Scope) (names : List String) : List Chore :=
  names.map (.cordon ⟨x.space, x.clusterId⟩)

/-- The nodes of old workers are found when they can be closed, and nothing is found otherwise. -/
theorem lookForOld_cases (x : Scope) (w : World) :
    Joined x w ∧ run World.plain (lookForOld x) w = (.ok (some (closings x (openNodes x w))), w) ∨
      ¬ Joined x w ∧ ∃ r, (∀ l, r ≠ .ok (some l)) ∧ run World.plain (lookForOld x) w = (r, w) := by
  unfold lookForOld
  rw [bind_eq, run_bind, run_usableTenant]
  cases ht : tenantIn x w with
  | none =>
    refine Or.inr ⟨fun hw => ?_, .ok none, fun _ => by rintro ⟨⟩, rfl⟩
    rw [hw.tenant] at ht
    cases ht
  | some t =>
    obtain rfl := tenant_eq ht
    dsimp only
    rw [bind_eq, run_bind]
    cases hs : x.scaleSet? w with
    | none =>
      have hmissing : run World.plain (survey x ⟨x.space, x.clusterId⟩) w =
          (.error (.azure (.notFound ("vmss " ++ x.scaleSet ++ " not found"))), w) := by
        unfold survey
        rw [bind_eq, run_bind, run_getScaleSet, hs]
        rfl
      rw [hmissing]
      refine Or.inr ⟨fun hw => ?_, _, fun _ => by rintro ⟨⟩, rfl⟩
      have hscaleSet := hw.scaleSet
      rw [hs] at hscaleSet
      cases hscaleSet
    | some s =>
      rw [run_survey hs]
      dsimp only
      by_cases henough : (workersIn x w).new.length < (workersIn x w).old.length
      · rw [if_pos henough]
        refine Or.inr ⟨fun hw => ?_, .ok none, fun _ => by rintro ⟨⟩, rfl⟩
        exact absurd hw.enough (Nat.not_le.2 henough)
      · rw [if_neg henough]
        refine Or.inl ⟨⟨ht, by rw [hs]; rfl, Nat.not_lt.1 henough⟩, ?_⟩
        simp only [closings, openNodes, List.map_map]
        rfl

/-- What was found of the old workers. -/
theorem found_lookForOld (hl : (run World.plain (lookForOld x) w).1 = .ok (some l)) :
    Joined x w ∧ l = closings x (openNodes x w) := by
  rcases lookForOld_cases x w with ⟨hw, hr⟩ | ⟨-, r, hnot, hr⟩
  · rw [hr] at hl
    exact ⟨hw, (Option.some.inj (Except.ok.inj hl)).symm⟩
  · rw [hr] at hl
    exact absurd hl (hnot l)

/-! ## Nodes that were closed -/

/-- A node closed when it is one of the given. -/
def closed (names : List String) (n : Node) : Node := if n.name ∈ names then n.cordon else n

/-- To close nodes changes the nodes of a pool, and nothing else that a pass over it looks at. -/
theorem closed_after (hw : w.Keyed) (names : List String) :
    nodesOf x (Chore.after (closings x names) w) = (nodesOf x w).map (closed names) ∧
      x.scaleSet? (Chore.after (closings x names) w) = x.scaleSet? w ∧
      x.instances (Chore.after (closings x names) w) = x.instances w ∧
      tenantIn x (Chore.after (closings x names) w) = tenantIn x w := by
  have hapart := (Chore.spares_after (closings x names) w).apart
  have hsubscription := World.subscription_of_apart hapart x.account
  have hentries := Dict.entries_eq_map (f := fun key (n : Node) =>
    if key ∈ names then n.cordon else n)
    (Chore.get?_cordons ⟨x.space, x.clusterId⟩ names w)
  refine ⟨?_, ?_, ?_, ?_⟩
  · have hvalues : (Chore.after (closings x names) w).nodes.values = w.nodes.values.map
        (closed names) := by
      unfold Dict.values closings
      rw [hentries, List.map_map, List.map_map]
      refine List.map_congr_left fun entry hentry => ?_
      have hname : entry.2.name = entry.1 := hw.nodes (Dict.mem_entries.1 hentry)
      simp only [Function.comp_apply, closed, hname]
    have hselected : ∀ n : Node, (closed names n).selectedBy (Name.poolSelector x.poolName) =
        n.selectedBy (Name.poolSelector x.poolName) := by
      intro n
      unfold closed
      split <;> rfl
    unfold nodesOf
    rw [hvalues, List.filter_map]
    exact congrArg (List.map (closed names)) (List.filter_congr fun n _ => hselected n)
  · exact congrArg (fun s => s.scaleSets.get? x.scaleSet) hsubscription
  · exact congrArg (fun s => s.instancesOf x.scaleSet) hsubscription
  · have hclusters : (Chore.after (closings x names) w).apart.clusters = w.apart.clusters := by
      rw [hapart]
    have hreachable : (Chore.after (closings x names) w).apart.reachable = w.apart.reachable := by
      rw [hapart]
    change (Chore.after (closings x names) w).clusters = w.clusters at hclusters
    change (Chore.after (closings x names) w).reachable = w.reachable at hreachable
    unfold tenantIn
    rw [hclusters, hreachable]

/-- The workers are those that there were, with their nodes closed. -/
theorem workersIn_after (hw : w.Keyed) (names : List String) :
    workersIn x (Chore.after (closings x names) w) =
      { old := (workersIn x w).old.map (Worker.mapNode (closed names))
        new := (workersIn x w).new.map (Worker.mapNode (closed names)) } := by
  obtain ⟨hnodes, hscaleSet, hinstances, -⟩ := closed_after (x := x) hw names
  have hname : ∀ n, (closed names n).name = n.name := by
    intro n
    unfold closed
    split <;> rfl
  have hversion : ∀ n, Partition.versionOf (closed names n) = Partition.versionOf n := by
    intro n
    unfold closed
    split <;> rfl
  unfold workersIn
  rw [hscaleSet, hinstances, hnodes]
  cases x.scaleSet? w with
  | none => rfl
  | some s => exact Partition.of_map hname hversion _ _

/-- What is not among the first of a list without repetition is behind them. -/
theorem filter_not_mem_take {names : List String} (hnodup : names.Nodup) (k : Nat) :
    names.filter (fun n => n ∉ names.take k) = names.drop k := by
  have hsplit : names.take k ++ names.drop k = names := List.take_append_drop k names
  have hapart : ∀ n ∈ names.drop k, n ∉ names.take k := by
    rw [← hsplit] at hnodup
    intro n hdrop htake
    exact (List.nodup_append.1 hnodup).2.2 n htake n hdrop rfl
  have hfirst : (names.take k).filter (fun n => n ∉ names.take k) = [] :=
    List.filter_eq_nil_iff.2 fun n hn => by simpa using hn
  have hrest : (names.drop k).filter (fun n => n ∉ names.take k) = names.drop k :=
    List.filter_eq_self.2 fun n hn => by simpa using hapart n hn
  have hboth := List.filter_append (p := fun n => decide (n ∉ names.take k)) (names.take k)
    (names.drop k)
  rw [hsplit, hfirst, hrest] at hboth
  exact hboth

/-- The nodes that are open then are those that were not closed. -/
theorem openNodes_after (hw : w.Keyed) (names : List String) :
    openNodes x (Chore.after (closings x names) w) = (openNodes x w).filter
      (fun n => n ∉ names) := by
  have hopen : ∀ v : Worker, (!(v.mapNode (closed names)).node.unschedulable) =
      (!v.node.unschedulable && decide (v.nodeName ∉ names)) := by
    intro v
    show (!(closed names v.node).unschedulable) = (!v.node.unschedulable &&
        decide (v.node.name ∉ names))
    unfold closed
    by_cases hv : v.node.name ∈ names <;> simp [hv]
  have hname : ∀ v : Worker, (v.mapNode (closed names)).nodeName = v.nodeName := by
    intro v
    show (closed names v.node).name = v.node.name
    unfold closed
    split <;> rfl
  unfold openNodes
  rw [workersIn_after hw, List.filter_map, List.filter_map, List.map_map, List.filter_filter]
  have hnames : ∀ l : List Worker, l.map (Worker.nodeName ∘ Worker.mapNode (closed names)) =
      l.map Worker.nodeName :=
    fun l => List.map_congr_left fun v _ => hname v
  rw [hnames]
  refine congrArg (List.map Worker.nodeName) (List.filter_congr fun v _ => ?_)
  simp only [Function.comp_apply, hopen, Bool.and_comm]

/-- No two nodes of old workers have one name. -/
theorem nodup_openNodes (x : Scope) (w : World) : (openNodes x w).Nodup :=
  (List.filter_sublist.map Worker.nodeName).nodup (nodup_old x w)

/-- A pass over the old workers that begins anew closes the nodes that are open still. -/
theorem resumable_lookForOld (x : Scope) : Resumable (lookForOld x) fun w => w.Calm ∧ w.Keyed where
  asks := by
    refine .bind ?_ fun found => ?_
    · refine .bind (.call rfl) fun cluster => ?_
      cases cluster with
      | none => trivial
      | some cluster =>
        dsimp only
        split
        · trivial
        · exact .bind (.call rfl) fun _ => trivial
    · cases found with
      | none => trivial
      | some tenant =>
        refine .bind (.bind (.call rfl) fun _ => .bind (.call rfl) fun _ =>
          .bind (.call rfl) fun _ => trivial)
          fun surveyed => ?_
        split
        split <;> trivial
  still w := by
    rcases lookForOld_cases x w with ⟨-, hr⟩ | ⟨-, r, -, hr⟩ <;> rw [hr]
  again := by
    rintro w l k ⟨-, hw⟩ hl
    obtain ⟨hjoined, rfl⟩ := found_lookForOld hl
    have htake : (closings x (openNodes x w)).take k = closings x ((openNodes x w).take k) :=
      List.map_take.symm
    have hdrop : (closings x (openNodes x w)).drop k = closings x ((openNodes x w).drop k) :=
      List.map_drop.symm
    obtain ⟨-, hscaleSet, -, htenant⟩ := closed_after (x := x) hw ((openNodes x w).take k)
    have hworkers := workersIn_after (x := x) hw ((openNodes x w).take k)
    rw [← htake] at hscaleSet htenant hworkers
    have hstill : Joined x (Chore.after ((closings x (openNodes x w)).take k) w) := by
      refine ⟨?_, ?_, ?_⟩
      · rw [htenant, hjoined.tenant]
      · rw [hscaleSet]
        exact hjoined.scaleSet
      · simpa only [hworkers, List.length_map] using hjoined.enough
    have hleft : openNodes x (Chore.after ((closings x (openNodes x w)).take k) w) =
        (openNodes x w).drop k := by
      rw [htake, openNodes_after hw, filter_not_mem_take (nodup_openNodes x w)]
    rcases lookForOld_cases x (Chore.after ((closings x (openNodes x w)).take k) w) with
      ⟨-, hr⟩ | ⟨hnot, -⟩
    · refine ⟨(closings x (openNodes x w)).drop k, ?_, ?_, rfl⟩
      · rw [hr, hleft, hdrop]
      · rw [← Chore.after_append, List.take_append_drop]
    · exact absurd hstill hnot
  nodup := by
    rintro w l - hl
    obtain ⟨-, rfl⟩ := found_lookForOld hl
    have hdeeds : ((closings x (openNodes x w)).map Chore.deed).Nodup := by
      rw [closings, List.map_map]
      refine List.pairwise_map.2 ((nodup_openNodes x w).imp fun hne heq => hne ?_)
      cases heq
      rfl
    exact (Chore.deeds_sublist _ w).nodup hdeeds

end Workers

end TenantFleet
