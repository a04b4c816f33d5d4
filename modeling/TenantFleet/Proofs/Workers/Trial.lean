/-
# Trials of a removal

A pass over a pool is tried in a world where one call may fail without effect. The workers are what
the world has under the name of the pool, and which instances were deleted is written down beside
it.

* `workersIn` : the workers of a pool in a world;
* `InRemoval` : that the pool is stored in the stage of the removal;
* `Trial` and `trials` : a world where one call may fail, with the instances that were deleted;
* `unchanged_of_looks` : what a look leaves as it is.
-/
import TenantFleet.Proofs.Workers.Capacity
import TenantFleet.Proofs.Workers.Partition
import TenantFleet.Proofs.World.Answer

namespace TenantFleet.Workers

open Program

variable {x : Scope} {w w' : World}

/-! ## The workers of a world -/

namespace Scope

/-- The instances of the pool in a world. -/
def instances (x : Scope) (w : World) : List Instance :=
  (w.subscription x.account).instancesOf x.scaleSet

/-- The scale set of the pool in a world. -/
def scaleSet? (x : Scope) (w : World) : Option ScaleSet :=
  (w.subscription x.account).scaleSets.get? x.scaleSet

end Scope

/-- The nodes that a pass over the pool is answered. -/
def nodesOf (x : Scope) (w : World) : List Node :=
  w.nodes.values.filter fun n => n.selectedBy (Name.poolSelector x.poolName)

/-- The workers of the pool in a world; none when there is no scale set. -/
def workersIn (x : Scope) (w : World) : Partition :=
  match x.scaleSet? w with
  | some s => workersOf x s (x.instances w) (nodesOf x w)
  | none => {}

/-- Whether nothing fails in a world and its nodes stand under their names. -/
structure Regular (x : Scope) (w : World) : Prop where
  named : ∀ {key n}, w.nodes.get? key = some n → n.name = key
  calm : w.failures = .empty
  cloudCalm : (w.subscription x.account).failures = .empty

/-- An old worker is an instance with the node of its name. -/
theorem old_worker (hw : Regular x w) {v : Worker} (hv : v ∈ (workersIn x w).old) :
    v.inst ∈ x.instances w ∧ v.nodeName = nodeName x.scaleSet v.inst.instanceId ∧
      w.nodes.get? v.nodeName = some v.node := by
  unfold workersIn at hv
  split at hv
  · obtain ⟨hinst, hnode, hname⟩ := Partition.of_worker (Or.inl hv)
    refine ⟨hinst, hname, ?_⟩
    obtain ⟨key, hkey⟩ := Dict.mem_values.1 (List.mem_filter.1 hnode).1
    have hk : v.nodeName = key := hw.named hkey
    rw [hk]
    exact hkey
  · cases hv

/-- No two old workers have nodes of one name. -/
theorem nodup_old (x : Scope) (w : World) : ((workersIn x w).old.map Worker.nodeName).Nodup := by
  unfold workersIn
  split
  · exact Partition.nodup_nodeNames _ _
  · exact List.nodup_nil

/-- Whether two worlds have the same workers, and what was kept is the same. -/
structure SamePool (x : Scope) (w w' : World) : Prop where
  nodes : w'.nodes = w.nodes
  instances : x.instances w' = x.instances w
  scaleSet : x.scaleSet? w' = x.scaleSet? w

namespace SamePool

theorem refl (x : Scope) (w : World) : SamePool x w w := ⟨rfl, rfl, rfl⟩

theorem trans {w'' : World} (h : SamePool x w w') (h' : SamePool x w' w'') : SamePool x w w'' :=
  ⟨h'.nodes.trans h.nodes, h'.instances.trans h.instances, h'.scaleSet.trans h.scaleSet⟩

/-- The workers are those that there were. -/
theorem workersIn_eq (h : SamePool x w w') : workersIn x w' = workersIn x w := by
  unfold workersIn nodesOf
  rw [h.nodes, h.instances, h.scaleSet]

end SamePool

/-! ## The stored pool -/

namespace Scope

/-- The pool as it is stored after the writes of a world. -/
def stored (x : Scope) (w : World) : AzureMachinePool :=
  w.saves.foldl (fun p s => s.applyToPool p) x.pool

/-- What a pass works on that reads the pool in a world. -/
def reread (x : Scope) (w : World) : Scope :=
  { x with pool := { x.pool with status := (x.stored w).status } }

end Scope

/-- A write is about the status of a pool. -/
theorem applyToPool_eq (s : SavedState) (p : AzureMachinePool) :
    s.applyToPool p = { p with status := (s.applyToPool p).status } := by
  unfold SavedState.applyToPool
  split <;> rfl

/-- The pool that is read is the one that is stored. -/
theorem pool_reread (x : Scope) (w : World) : (x.reread w).pool = x.stored w := by
  have hfold : ∀ (l : List SavedState) (p : AzureMachinePool),
      { p with status := (l.foldl (fun p s => s.applyToPool p) p).status } =
        l.foldl (fun p s => s.applyToPool p) p := by
    intro l
    induction l with
    | nil => exact fun _ => rfl
    | cons s rest ih =>
      intro p
      rw [List.foldl_cons, ← ih, applyToPool_eq]
  exact hfold w.saves x.pool

/-- Whether the pool is stored in the stage of the removal. -/
def InRemoval (x : Scope) (w : World) : Prop :=
  (stateOf (x.stored w)).stage WorkersStage = .scaleDown

instance (x : Scope) (w : World) : Decidable (InRemoval x w) := inferInstanceAs (Decidable (_ = _))

/-- As long as nothing is written, the pool stays in its stage. -/
theorem InRemoval.of_saves (h : InRemoval x w) (hsaves : w'.saves = w.saves) : InRemoval x w' := by
  unfold InRemoval Scope.stored at h ⊢
  rw [hsaves]
  exact h

/-- The pool is stored in the stage that is written last. -/
theorem inRemoval_of_saved {values : Dict String}
    (hstage : values.get? HandlerState.stageKey = some (Stage.name WorkersStage.scaleDown))
    (hsaves : w'.saves = w.saves ++ [⟨StatusTarget.ofPool x.pool, handler, values⟩]) :
    InRemoval x w' := by
  have hname : (StatusTarget.ofPool x.pool).name = (x.stored w).metadata.anyName := by
    rw [← pool_reread]
    rfl
  have hstored : x.stored w' =
      (x.stored w).modifyMaps
        (SavedState.applyTo ⟨StatusTarget.ofPool x.pool, handler, values⟩) := by
    rw [Scope.stored, hsaves, List.foldl_append]
    -- No write changes the name of the pool, so this one is about it.
    exact if_pos ⟨rfl, hname⟩
  have hstate : stateOf (x.stored w') = ⟨values⟩ := by
    rw [hstored]
    show HandlerState.mk ((Dict.insert _ handler values).get? handler |>.getD .empty) = ⟨values⟩
    rw [Dict.get?_insert_self]
    rfl
  unfold InRemoval
  rw [hstate, HandlerState.stage, hstage]
  exact WorkersStage.ofName_name .scaleDown

/-! ## Trials -/

/-- A call that failed, and how. -/
structure Fault where
  /-- The call. -/
  call : Call
  /-- How it failed. -/
  failure : call.Failure

/-- A world in which something was tried. -/
structure Trial where
  /-- The world. -/
  world : World
  /-- The IDs of the instances of the pool that were deleted. -/
  removed : List String := []
  /-- The call that failed, if one did. -/
  fault : Option Fault := none

/-- The IDs of the instances that were deleted, after a call. -/
def removedBy (x : Scope) (c : Call) (r : Except c.Failure c.Answer) (ids : List String) :
    List String :=
  match c, r with
  | .cloud _ _ (.deleteInstances name l), .ok _ => if name = x.scaleSet then ids ++ l else ids
  | _, _ => ids

/-- The surroundings in which one call may fail, without its effect. -/
def trials (x : Scope) : Surroundings Trial where
  answers c s r s' :=
    (s.fault = none ∧ ∃ e, r = .error e ∧ s' = { s with fault := some ⟨c, e⟩ }) ∨
      r = (World.answer c s.world).1 ∧
        s' = { s with world := (World.answer c s.world).2, removed := removedBy x c r s.removed }
  note event s := { s with world := World.handler.note event s.world }

/-- Whether a call only looks at the pool or its tenant, or waits. -/
def Looks (x : Scope) : Call → Prop
  | .getCluster _ _ | .openTenant _ _ | .tenant _ _ (.listNodes _) => True
  | .cloud account _ (.wait _) | .cloud account _ (.getScaleSet _)
  | .cloud account _ (.listInstances _) =>
    account = x.account
  | _ => False

/-- Whether a world differs from another in nothing that a pass could find. -/
structure Unchanged (x : Scope) (w w' : World) : Prop where
  regular : Regular x w'
  pool : SamePool x w w'
  saves : w'.saves = w.saves

/-- A call that is only written down changes nothing. -/
theorem unchanged_of_record (hw : Regular x w) {c : Call}
    (hc : ∀ account group k, c ≠ .cloud account group k)
    (hk : ((w.record c).perform c).2 = w.record c) : Unchanged x w (World.answer c w).2 := by
  rw [World.answer_of_steady hw.calm hc, hk]
  refine ⟨⟨hw.named, hw.calm, ?_⟩, ⟨rfl, ?_, ?_⟩, rfl⟩
  · rw [World.subscription_record]
    exact hw.cloudCalm
  · rw [Scope.instances, World.subscription_record, Scope.instances]
  · rw [Scope.scaleSet?, World.subscription_record, Scope.scaleSet?]

/-- A request that leaves its subscription as it is, but for the record, changes nothing. -/
theorem unchanged_of_logged (hw : Regular x w) {group : String} {k : CloudCall}
    (hk : (((w.subscription x.account).logged k).perform group k).2 =
      (w.subscription x.account).logged k) :
    Unchanged x w (World.answer (.cloud x.account group k) w).2 := by
  rw [World.answer_cloud_of_steady hw.cloudCalm, hk]
  refine ⟨⟨?_, ?_, ?_⟩, ⟨?_, ?_, ?_⟩, ?_⟩
  · rw [World.nodes_setSubscription]
    exact hw.named
  · rw [World.failures_setSubscription]
    exact hw.calm
  · rw [World.subscription_setSubscription]
    exact hw.cloudCalm
  · exact World.nodes_setSubscription _ _ _
  · rw [Scope.instances, World.subscription_setSubscription]
    rfl
  · rw [Scope.scaleSet?, World.subscription_setSubscription]
    rfl
  · exact World.saves_setSubscription _ _ _

/-- A look changes nothing. -/
theorem unchanged_of_looks (hw : Regular x w) {c : Call} (hc : Looks x c) :
    Unchanged x w (World.answer c w).2 := by
  cases c with
  | getCluster space name => exact unchanged_of_record hw (fun _ _ _ h => by cases h) rfl
  | openTenant space clusterId => exact unchanged_of_record hw (fun _ _ _ h => by cases h) rfl
  | tenant space clusterId k =>
    cases k with
    | listNodes selector => exact unchanged_of_record hw (fun _ _ _ h => by cases h) rfl
    | cordonNode name => exact hc.elim
    | deleteNode name => exact hc.elim
  | cloud account group k =>
    cases k with
    | wait operation =>
      obtain rfl : account = x.account := hc
      exact unchanged_of_logged hw rfl
    | getScaleSet name =>
      obtain rfl : account = x.account := hc
      exact unchanged_of_logged hw rfl
    | listInstances name =>
      obtain rfl : account = x.account := hc
      exact unchanged_of_logged hw rfl
    | _ => exact hc.elim
  | _ => exact hc.elim

/-! ## What a pass is answered -/

/-- A resource that is answered is there. -/
theorem of_orMissing {α : Type} {found : Option α} {what : String} {a : α}
    (h : Subscription.orMissing found what = .ok a) : found = some a := by
  cases found with
  | none => cases h
  | some b => exact congrArg some (Except.ok.inj h)

/-- The scale set that is answered. -/
theorem answer_getScaleSet (hw : Regular x w) {s : ScaleSet}
    (h : (World.answer (.cloud x.account x.clusterId (.getScaleSet x.scaleSet)) w).1 = .ok s) :
    x.scaleSet? w = some s := by
  rw [World.answer_cloud_of_steady hw.cloudCalm] at h
  exact of_orMissing h

/-- The instances that are answered. -/
theorem answer_listInstances (hw : Regular x w) {l : List Instance}
    (h : (World.answer (.cloud x.account x.clusterId (.listInstances x.scaleSet)) w).1 = .ok l) :
    l = x.instances w := by
  rw [World.answer_cloud_of_steady hw.cloudCalm] at h
  obtain ⟨s, -, hs⟩ := Option.map_eq_some_iff.1 (of_orMissing h)
  exact hs.symm

/-- The nodes that are answered. -/
theorem answer_listNodes (hw : Regular x w) {l : List Node}
    (h : (World.answer (.tenant x.space x.clusterId
      (.listNodes (some (Name.poolSelector x.poolName)))) w).1 =
      .ok l) :
    l = nodesOf x w := by
  rw [World.answer_of_steady hw.calm fun _ _ _ h => by cases h] at h
  exact (Except.ok.inj h).symm

end TenantFleet.Workers
