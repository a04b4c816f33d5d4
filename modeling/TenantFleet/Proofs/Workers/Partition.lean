/-
# Who the workers are

The workers of a pool are its instances with the nodes named after them. A node belongs to one
worker only, so old workers can be told apart by their nodes.

* `collect_worker` and `of_worker` : an old or new worker is an instance and the node of its name;
* `nodup_nodeNames` : no two old workers have nodes of one name.
-/
import TenantFleet.Proofs.Data.Dict
import TenantFleet.Workers.Partition

namespace TenantFleet.Partition

variable {scaleSet : String} {size : Option String} {version : Version} {v : Worker}

/-- An instance without a node is left out. -/
theorem collect_cons_of_none {a : Instance} {nodes : Dict Node}
    (h : nodes.get? (nodeName scaleSet a.instanceId) = none) (rest : List Instance) :
    collect scaleSet size version (a :: rest) nodes = collect scaleSet size version rest nodes := by
  simp only [collect, h]

/-- An instance with a node stands before those behind it, which have their nodes from the
others. -/
theorem collect_cons_of_some {a : Instance} {nodes : Dict Node} {node : Node}
    (h : nodes.get? (nodeName scaleSet a.instanceId) = some node) (rest : List Instance) :
    collect scaleSet size version (a :: rest) nodes =
      let others := collect scaleSet size version rest
        (nodes.erase (nodeName scaleSet a.instanceId))
      match versionOf node with
      | none => others
      | some made =>
        if made.older version || isResized size a then
          { others with old := ⟨a, node⟩ :: others.old }
        else { others with new := ⟨a, node⟩ :: others.new } := by
  cases hmade : versionOf node with
  | none => simp only [collect, h, hmade]
  | some made => simp only [collect, h, hmade]

/-- An old or new worker is an instance with the node that was found for it. -/
theorem collect_worker {l : List Instance} {nodes : Dict Node}
    (h : v ∈ (collect scaleSet size version l nodes).old ∨
      v ∈ (collect scaleSet size version l nodes).new) :
    v.inst ∈ l ∧ nodes.get? (nodeName scaleSet v.inst.instanceId) = some v.node := by
  induction l generalizing nodes with
  | nil => rcases h with h | h <;> cases h
  | cons a rest ih =>
    cases hnode : nodes.get? (nodeName scaleSet a.instanceId) with
    | none =>
      rw [collect_cons_of_none hnode] at h
      obtain ⟨hmem, hget⟩ := ih h
      exact ⟨List.mem_cons_of_mem a hmem, hget⟩
    | some node =>
      rw [collect_cons_of_some hnode] at h
      -- Workers behind this one have their nodes from what is left of the nodes.
      have hothers :
          v ∈ (collect scaleSet size version rest
          (nodes.erase (nodeName scaleSet a.instanceId))).old ∨
          v ∈ (collect scaleSet size version rest
            (nodes.erase (nodeName scaleSet a.instanceId))).new →
          v.inst ∈ a :: rest ∧ nodes.get? (nodeName scaleSet v.inst.instanceId) = some v.node := by
        intro hv
        obtain ⟨hmem, hget⟩ := ih hv
        refine ⟨List.mem_cons_of_mem a hmem, ?_⟩
        rw [Dict.get?_erase] at hget
        split at hget
        · cases hget
        · exact hget
      have hthis : v = ⟨a, node⟩ →
          v.inst ∈ a :: rest ∧ nodes.get? (nodeName scaleSet v.inst.instanceId) = some v.node := by
        rintro rfl
        exact ⟨List.mem_cons_self, hnode⟩
      dsimp only at h
      split at h
      · exact hothers h
      · split at h
        · rcases h with h | h
          · rcases List.mem_cons.1 h with h | h
            · exact hthis h
            · exact hothers (Or.inl h)
          · exact hothers (Or.inr h)
        · rcases h with h | h
          · exact hothers (Or.inl h)
          · rcases List.mem_cons.1 h with h | h
            · exact hthis h
            · exact hothers (Or.inr h)

/-- Nodes that are found by name are listed under that name. -/
theorem mem_of_byName {nodes : List Node} {name : String} {n : Node}
    (h : (byName nodes).get? name = some n) :
    n ∈ nodes ∧ n.name = name := by
  obtain ⟨n', hn', heq⟩ := List.mem_map.1 (Dict.mem_of_get?_ofList h)
  obtain ⟨hname, rfl⟩ := Prod.mk.inj heq
  exact ⟨hn', hname⟩

/-- A worker is an instance with the node of its name. -/
theorem of_worker {l : List Instance} {nodes : List Node}
    (h : v ∈ (Partition.of scaleSet size l nodes version).old ∨
      v ∈ (Partition.of scaleSet size l nodes version).new) :
    v.inst ∈ l ∧ v.node ∈ nodes ∧ v.nodeName = nodeName scaleSet v.inst.instanceId := by
  obtain ⟨hmem, hget⟩ := collect_worker h
  obtain ⟨hnode, hname⟩ := mem_of_byName hget
  exact ⟨hmem, hnode, hname⟩

/-- The instances of two old workers have nodes of different names. -/
theorem nodup_collect (l : List Instance) (nodes : Dict Node) :
    ((collect scaleSet size version l nodes).old.map fun v =>
      nodeName scaleSet v.inst.instanceId).Nodup := by
  induction l generalizing nodes with
  | nil => exact List.nodup_nil
  | cons a rest ih =>
    cases hnode : nodes.get? (nodeName scaleSet a.instanceId) with
    | none =>
      rw [collect_cons_of_none hnode]
      exact ih nodes
    | some node =>
      rw [collect_cons_of_some hnode]
      dsimp only
      split
      · exact ih _
      · split
        · rw [List.map_cons, List.nodup_cons]
          refine ⟨?_, ih _⟩
          intro hmem
          obtain ⟨v, hv, hname⟩ := List.mem_map.1 hmem
          -- The workers behind this one were found after its node was erased.
          have hget := (collect_worker (Or.inl hv)).2
          rw [hname, Dict.get?_erase_self] at hget
          cases hget
        · exact ih _

/-- No two old workers have nodes of one name. -/
theorem nodup_nodeNames (l : List Instance) (nodes : List Node) :
    ((Partition.of scaleSet size l nodes version).old.map Worker.nodeName).Nodup := by
  have hnames : (Partition.of scaleSet size l nodes version).old.map Worker.nodeName =
      (Partition.of scaleSet size l nodes version).old.map fun v =>
        nodeName scaleSet v.inst.instanceId :=
    List.map_congr_left fun v hv => (of_worker (Or.inl hv)).2.2
  rw [hnames]
  exact nodup_collect l (byName nodes)

end TenantFleet.Partition
