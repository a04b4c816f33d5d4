/-
# Which instances are old and which are new

Among instances and nodes with different names every instance that has a node with a version is a
worker, an old or a new one, in the order of the instances. The loop takes a node away with the
instance it belongs to; no other instance asks for that node, so it could as well be left where it
is.

* `nodeName_injective` : different instances of a scale set have nodes of different names;
* `collect_eq` : the workers are those of all instances, told apart by what is outdated;
* `Classifies` and `classifies` : what the old and the new workers are.
-/
import Mathlib.Data.List.Nodup
import Mathlib.Data.List.Perm.Basic
import TenantFleet.Proofs.Text.Numeral
import TenantFleet.Proofs.Workers.Partition

namespace TenantFleet

/-! ## Names of nodes -/

/-- The node of a numbered instance is named after the number in base 36. -/
theorem nodeName_toString (scaleSet : String) {n : Nat} (h : n < Nat.pow 2 64) :
    nodeName scaleSet (toString n) = scaleSet ++ "-" ++
      String.ofList (Base36.padded nodeDigits n) := by
  unfold nodeName
  rw [Unsigned.parse_toString h]

/-- Different instances of a scale set have nodes of different names. -/
theorem nodeName_injective {scaleSet : String} {m n : Nat} (hm : m < Nat.pow 2 64)
    (hn : n < Nat.pow 2 64)
    (h : nodeName scaleSet (toString m) = nodeName scaleSet (toString n)) : m = n := by
  rw [nodeName_toString scaleSet hm, nodeName_toString scaleSet hn] at h
  have hdigits := String.ofList_injective ((String.append_right_inj _).1 h)
  have hvalues := congrArg Base36.value hdigits
  rwa [Base36.value_padded, Base36.value_padded] at hvalues

/-- Whether the ID of an instance is a number in its usual decimal form. -/
def Instance.Numbered (v : Instance) : Prop := ∃ n, n < Nat.pow 2 64 ∧ v.instanceId = toString n

/-- Numbered instances with different IDs have nodes of different names. -/
theorem nodup_nodeName (scaleSet : String) {instances : List Instance}
    (hids : (instances.map Instance.instanceId).Nodup) (hnumbered : ∀ v ∈ instances, v.Numbered) :
    (instances.map fun v => nodeName scaleSet v.instanceId).Nodup := by
  refine List.Nodup.map_on ?_ (List.Nodup.of_map _ hids)
  intro v hv v' hv' hname
  obtain ⟨n, hn, hid⟩ := hnumbered v hv
  obtain ⟨n', hn', hid'⟩ := hnumbered v' hv'
  rw [hid, hid'] at hname
  refine List.inj_on_of_nodup_map hids hv hv' ?_
  rw [hid, hid', nodeName_injective hn hn' hname]

namespace Partition

variable {scaleSet : String} {size : Option String} {version : Version} {instances : List Instance}
  {nodes : List Node} {found : Dict Node} {v : Instance} {n : Node} {w : Worker}

/-! ## The workers of all instances -/

/-- The worker that an instance is, when its node is found and has a version. -/
def workerOf (scaleSet : String) (found : Dict Node) (v : Instance) : Option Worker :=
  (found.get? (nodeName scaleSet v.instanceId)).bind fun n =>
    if (versionOf n).isSome then some ⟨v, n⟩ else none

/-- The workers among some instances. -/
def workers (scaleSet : String) (instances : List Instance) (found : Dict Node) : List Worker :=
  instances.filterMap (workerOf scaleSet found)

/-- Whether a worker is replaced: its version is older, or its machine has another size than the
scale set. -/
def isOutdated (size : Option String) (version : Version) (w : Worker) : Bool :=
  (versionOf w.node).any (·.older version) || isResized size w.inst

theorem workerOf_eq_some :
    workerOf scaleSet found v = some w ↔ w.inst = v ∧
      found.get? (nodeName scaleSet v.instanceId) = some w.node ∧
      (versionOf w.node).isSome = true := by
  unfold workerOf
  rw [Option.bind_eq_some_iff]
  constructor
  · rintro ⟨n, hn, hw⟩
    split at hw
    · rename_i hversion
      cases hw
      exact ⟨rfl, hn, hversion⟩
    · cases hw
  · rintro ⟨rfl, hn, hversion⟩
    exact ⟨w.node, hn, if_pos hversion⟩

/-- A worker is one of the instances with the node that is found for it. -/
theorem mem_workers :
    w ∈ workers scaleSet instances found ↔ w.inst ∈ instances ∧
      found.get? (nodeName scaleSet w.inst.instanceId) = some w.node ∧
      (versionOf w.node).isSome = true := by
  unfold workers
  rw [List.mem_filterMap]
  constructor
  · rintro ⟨v, hv, hw⟩
    obtain ⟨rfl, hn, hversion⟩ := workerOf_eq_some.1 hw
    exact ⟨hv, hn, hversion⟩
  · rintro ⟨hv, hn, hversion⟩
    exact ⟨w.inst, hv, workerOf_eq_some.2 ⟨rfl, hn, hversion⟩⟩

/-- Workers stand in the order of their instances. -/
theorem inst_workers_sublist (scaleSet : String) (instances : List Instance) (found : Dict Node) :
    ((workers scaleSet instances found).map Worker.inst).Sublist instances := by
  induction instances with
  | nil => exact List.Sublist.slnil
  | cons v rest ih =>
    unfold workers at ih ⊢
    cases hw : workerOf scaleSet found v with
    | none =>
      rw [List.filterMap_cons_none hw]
      exact ih.cons v
    | some w =>
      rw [List.filterMap_cons_some hw, List.map_cons, (workerOf_eq_some.1 hw).1]
      exact ih.cons_cons v

/-- Nodes that the instances do not ask for do not matter. -/
theorem workers_erase {name : String}
    (h : name ∉ instances.map fun v => nodeName scaleSet v.instanceId) :
    workers scaleSet instances (found.erase name) = workers scaleSet instances found := by
  refine List.filterMap_congr fun v hv => ?_
  unfold workerOf
  have hne : name ≠ nodeName scaleSet v.instanceId := by
    rintro rfl
    exact h (List.mem_map.2 ⟨v, hv, rfl⟩)
  rw [Dict.get?_erase_of_ne _ hne]

/-- Instances with nodes of different names are told apart one by one: the workers that are replaced
are old, the others are new. -/
theorem collect_eq (h : (instances.map fun v => nodeName scaleSet v.instanceId).Nodup)
    (found : Dict Node) :
    collect scaleSet size version instances found =
      { old := (workers scaleSet instances found).filter (isOutdated size version)
        new := (workers scaleSet instances found).filter fun w => !isOutdated size version w } := by
  induction instances generalizing found with
  | nil => rfl
  | cons v rest ih =>
    obtain ⟨hnot, hrest⟩ := List.nodup_cons.1 h
    cases hnode : found.get? (nodeName scaleSet v.instanceId) with
    | none =>
      have hnone : workerOf scaleSet found v = none := by
        unfold workerOf
        rw [hnode]
        rfl
      have hworkers : workers scaleSet (v :: rest) found = workers scaleSet rest found :=
        List.filterMap_cons_none hnone
      rw [collect_cons_of_none hnode, ih hrest, hworkers]
    | some n =>
      have hothers := ih hrest (found.erase (nodeName scaleSet v.instanceId))
      -- The instances behind this one do not ask for its node, so it might as well have been left.
      rw [workers_erase hnot] at hothers
      rw [collect_cons_of_some hnode, hothers]
      cases hmade : versionOf n with
      | none =>
        have hnone : workerOf scaleSet found v = none := by
          unfold workerOf
          rw [hnode, Option.bind_some, hmade]
          rfl
        have hworkers : workers scaleSet (v :: rest) found = workers scaleSet rest found :=
          List.filterMap_cons_none hnone
        rw [hworkers]
      | some made =>
        have hsome : workerOf scaleSet found v = some ⟨v, n⟩ :=
          workerOf_eq_some.2 ⟨rfl, hnode, by rw [hmade]; rfl⟩
        have hworkers : workers scaleSet (v :: rest) found = ⟨v, n⟩ ::
            workers scaleSet rest found :=
          List.filterMap_cons_some hsome
        have houtdated :
            isOutdated size version ⟨v, n⟩ = (made.older version || isResized size v) := by
          unfold isOutdated
          rw [hmade]
          rfl
        rw [hworkers]
        dsimp only
        split
        · rename_i hold
          rw [← houtdated] at hold
          rw [List.filter_cons_of_pos hold, List.filter_cons_of_neg (by rw [hold]; decide)]
        · rename_i hnew
          rw [← houtdated] at hnew
          rw [List.filter_cons_of_neg hnew, List.filter_cons_of_pos (by simpa using hnew)]

/-! ## What the old and the new workers are -/

/-- Whether a node is that of an instance and has a version that can be read. -/
def Joined (scaleSet : String) (nodes : List Node) (v : Instance) (n : Node) : Prop :=
  n ∈ nodes ∧ n.name = nodeName scaleSet v.instanceId ∧
    ∃ label made, n.label? Label.operatorVersion = some label ∧ Version.parse? label = some made

/-- Whether the version of a worker is older, or the sizes of its machine and of the scale set are
known and different. -/
def Outdated (size : Option String) (version : Version) (w : Worker) : Prop :=
  (∃ label made, w.node.label? Label.operatorVersion = some label ∧
    Version.parse? label = some made ∧
      made.compare version = .lt) ∨
    ∃ a b, w.inst.skuName = some a ∧ size = some b ∧ a ≠ b

/-- The old workers are the outdated ones, the new workers all others; both stand in the order of
the instances, and no instance and no node is there twice. -/
structure Classifies (scaleSet : String) (size : Option String) (version : Version)
    (instances : List Instance) (nodes : List Node) (p : Partition) : Prop where
  /-- An instance is a worker when its node has joined. -/
  joined : ∀ v ∈ instances,
    (∃ w, (w ∈ p.old ∨ w ∈ p.new) ∧ w.inst = v) ↔ ∃ n, Joined scaleSet nodes v n
  /-- The old workers. -/
  mem_old : ∀ w, w ∈ p.old ↔
    w.inst ∈ instances ∧ Joined scaleSet nodes w.inst w.node ∧ Outdated size version w
  /-- The new workers. -/
  mem_new : ∀ w, w ∈ p.new ↔
    w.inst ∈ instances ∧ Joined scaleSet nodes w.inst w.node ∧ ¬Outdated size version w
  /-- The old workers have the order of the instances. -/
  old_sublist : (p.old.map Worker.inst).Sublist instances
  /-- The new workers have the order of the instances. -/
  new_sublist : (p.new.map Worker.inst).Sublist instances
  /-- No instance is there twice. -/
  nodup_ids : ((p.old ++ p.new).map fun w => w.inst.instanceId).Nodup
  /-- No node is there twice. -/
  nodup_names : ((p.old ++ p.new).map Worker.nodeName).Nodup

theorem isSome_versionOf :
    (versionOf n).isSome = true ↔
      ∃ label made, n.label? Label.operatorVersion = some label ∧
      Version.parse? label = some made := by
  unfold versionOf
  rw [Option.isSome_iff_exists]
  simp only [Option.bind_eq_some_iff]
  exact exists_comm

theorem isOutdated_iff : isOutdated size version w = true ↔ Outdated size version w := by
  unfold isOutdated Outdated
  rw [Bool.or_eq_true, Option.any_eq_true]
  refine or_congr ?_ ?_
  · unfold versionOf Version.older
    simp only [Option.bind_eq_some_iff, decide_eq_true_eq]
    constructor
    · rintro ⟨made, ⟨label, hlabel, hmade⟩, hold⟩
      exact ⟨label, made, hlabel, hmade, hold⟩
    · rintro ⟨label, made, hlabel, hmade, hold⟩
      exact ⟨made, ⟨label, hlabel, hmade⟩, hold⟩
  · unfold isResized
    cases w.inst.skuName with
    | none => simp
    | some a =>
      cases size with
      | none => simp
      | some b => simp

/-- Among nodes with different names each is found by its name. -/
theorem get?_byName (h : (nodes.map Node.name).Nodup) {name : String} :
    (byName nodes).get? name = some n ↔ n ∈ nodes ∧ n.name = name := by
  have hkeys : (nodes.map fun n => (n.name, n)).map Prod.fst = nodes.map Node.name := List.map_map
  unfold byName
  rw [Dict.get?_ofList_eq_some_iff (by rwa [hkeys]), List.mem_map]
  constructor
  · rintro ⟨n', hn', heq⟩
    obtain ⟨rfl, rfl⟩ := Prod.mk.inj heq
    exact ⟨hn', rfl⟩
  · rintro ⟨hn, rfl⟩
    exact ⟨n, hn, rfl⟩

/-- Nodes with different names are found alike in any order. -/
theorem byName_of_perm {nodes' : List Node} (hperm : nodes'.Perm nodes)
    (h : (nodes.map Node.name).Nodup) :
    byName nodes' = byName nodes := by
  have h' : (nodes'.map Node.name).Nodup := (hperm.map Node.name).nodup_iff.2 h
  refine Dict.ext_get? fun name => Option.ext fun n => ?_
  rw [get?_byName h, get?_byName h', hperm.mem_iff]

/-- The workers of all instances are those whose nodes have joined. -/
theorem mem_workers_byName (h : (nodes.map Node.name).Nodup) :
    w ∈ workers scaleSet instances (byName nodes) ↔
      w.inst ∈ instances ∧ Joined scaleSet nodes w.inst w.node := by
  rw [mem_workers, get?_byName h, isSome_versionOf]
  unfold Joined
  rw [and_assoc]

/-- No two workers have instances of one ID when no two instances have. -/
theorem nodup_ids_workers (h : (instances.map Instance.instanceId).Nodup) :
    ((workers scaleSet instances found).map fun w => w.inst.instanceId).Nodup := by
  have hids : ((workers scaleSet instances found).map Worker.inst).map Instance.instanceId =
      (workers scaleSet instances found).map fun w => w.inst.instanceId := List.map_map
  rw [← hids]
  exact h.sublist ((inst_workers_sublist scaleSet instances found).map _)

/-- No two workers have nodes of one name when no two instances have. -/
theorem nodup_names_workers (hnames : (nodes.map Node.name).Nodup)
    (h : (instances.map fun v => nodeName scaleSet v.instanceId).Nodup) :
    ((workers scaleSet instances (byName nodes)).map Worker.nodeName).Nodup := by
  have hworkers : ((workers scaleSet instances (byName nodes)).map Worker.inst).map
        (fun v => nodeName scaleSet v.instanceId) =
      (workers scaleSet instances (byName nodes)).map Worker.nodeName := by
    rw [List.map_map]
    exact List.map_congr_left fun w hw => ((mem_workers_byName hnames).1 hw).2.2.1.symm
  rw [← hworkers]
  exact h.sublist ((inst_workers_sublist scaleSet instances (byName nodes)).map _)

/-- What differs among all workers differs among the old and the new ones together. -/
theorem nodup_told_apart {l : List Worker} {key : Worker → String} (h : (l.map key).Nodup)
    (old : Worker → Bool) : ((l.filter old ++ l.filter fun w => !old w).map key).Nodup :=
  ((List.filter_append_perm old l).map key).nodup_iff.2 h

/-- Instances with different numbers and nodes with different names are told apart exactly, whatever
the order of the nodes. -/
theorem classifies (scaleSet : String) (size : Option String) (version : Version)
    {instances : List Instance} {nodes : List Node}
    (hids : (instances.map Instance.instanceId).Nodup)
    (hnumbered : ∀ v ∈ instances, v.Numbered) (hnames : (nodes.map Node.name).Nodup) :
    Classifies scaleSet size version instances nodes
        (Partition.of scaleSet size instances nodes version) ∧
      ∀ nodes', nodes'.Perm nodes →
        Partition.of scaleSet size instances nodes' version =
          Partition.of scaleSet size instances nodes version := by
  have hdistinct := nodup_nodeName scaleSet hids hnumbered
  have hsublist := inst_workers_sublist scaleSet instances (byName nodes)
  refine ⟨?_, fun nodes' hperm => ?_⟩
  · unfold Partition.of
    rw [collect_eq hdistinct]
    constructor
    case joined =>
      intro v hv
      constructor
      · rintro ⟨w, hw, rfl⟩
        have hworker : w ∈ workers scaleSet instances (byName nodes) :=
          hw.elim (fun h => (List.mem_filter.1 h).1) fun h => (List.mem_filter.1 h).1
        exact ⟨w.node, ((mem_workers_byName hnames).1 hworker).2⟩
      · rintro ⟨n, hn⟩
        have hworker := (mem_workers_byName (w := ⟨v, n⟩) hnames).2 ⟨hv, hn⟩
        refine ⟨⟨v, n⟩, ?_, rfl⟩
        cases hold : isOutdated size version ⟨v, n⟩ with
        | true => exact Or.inl (List.mem_filter.2 ⟨hworker, hold⟩)
        | false => exact Or.inr (List.mem_filter.2 ⟨hworker, by rw [hold]; rfl⟩)
    case mem_old =>
      intro w
      rw [List.mem_filter, mem_workers_byName hnames, isOutdated_iff, and_assoc]
    case mem_new =>
      intro w
      rw [List.mem_filter, mem_workers_byName hnames, Bool.not_eq_true', ← Bool.not_eq_true,
        isOutdated_iff, and_assoc]
    case old_sublist => exact (List.filter_sublist.map _).trans hsublist
    case new_sublist => exact (List.filter_sublist.map _).trans hsublist
    case nodup_ids => exact nodup_told_apart (nodup_ids_workers hids) _
    case nodup_names => exact nodup_told_apart (nodup_names_workers hnames hdistinct) _
  · unfold Partition.of
    rw [byName_of_perm hperm hnames]

end Partition

/-- Five instances of a pool: one of another machine size and four of the size of the scale set. -/
def fiveInstances : List Instance :=
  [{ instanceId := "0", sku := some { name := some "D4s" } },
    { instanceId := "1", sku := some { name := some "D2s" } },
    { instanceId := "10" }, { instanceId := "35" }, { instanceId := "36" }]

/-- A node with the label of a version. -/
def labelledNode (name label : String) : Node :=
  { metadata := { name := some name, labels := some (.ofList [(Label.operatorVersion, label)]) } }

/-- The nodes of four of the five instances, one with a label that is no version, and a node of
nobody. -/
def fiveNodes : List Node :=
  [labelledNode "pool-00000z" "2.0.0-rc1", labelledNode "pool-00000a" "two",
    labelledNode "pool-000001" "2.0.0",
    labelledNode "pool-000000" "3.1.0", labelledNode "pool-00001z" "1.0.0"]

/-- Five instances are told apart: one is old for its size, one for its version, one is new, and two
are neither, as one has no node and the version of the other's node cannot be read. -/
theorem Partition.classifies_five :
    (fiveInstances.map Instance.instanceId).Nodup ∧ (∀ v ∈ fiveInstances, v.Numbered) ∧
      (fiveNodes.map Node.name).Nodup ∧
      Partition.Classifies "pool" (some "D2s") ⟨2, 0, 0, [], []⟩ fiveInstances fiveNodes
        (Partition.of "pool" (some "D2s") fiveInstances fiveNodes ⟨2, 0, 0, [], []⟩) ∧
      Partition.of "pool" (some "D2s") fiveInstances fiveNodes.reverse ⟨2, 0, 0, [], []⟩ =
        Partition.of "pool" (some "D2s") fiveInstances fiveNodes ⟨2, 0, 0, [], []⟩ := by
  have hids : (fiveInstances.map Instance.instanceId).Nodup := by decide
  have hnumbered : ∀ v ∈ fiveInstances, v.Numbered := by
    unfold fiveInstances
    simp only [List.forall_mem_cons]
    exact ⟨⟨0, by decide, rfl⟩, ⟨1, by decide, rfl⟩, ⟨10, by decide, rfl⟩, ⟨35, by decide, rfl⟩,
      ⟨36, by decide, rfl⟩, by simp⟩
  have hnames : (fiveNodes.map Node.name).Nodup := by decide
  obtain ⟨hclassifies, hperm⟩ :=
    Partition.classifies "pool" (some "D2s") ⟨2, 0, 0, [], []⟩ hids hnumbered hnames
  exact ⟨hids, hnumbered, hnames, hclassifies, hperm _ (List.reverse_perm _)⟩

end TenantFleet
