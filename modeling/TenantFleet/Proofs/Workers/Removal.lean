/-
# How a removal ends

A pass removes the nodes of the old workers first and their instances then. So it may end with
nothing done, with all old instances deleted, or, when it was given up in between, with instances
that have lost their nodes.

* `Strands` : the failures that leave old instances behind;
* `Steadfast` : what no call of a pass undoes;
* `Settled` : what a pass leaves of the old workers;
* `safe_removal` : how a pass in the stage of the removal ends, wherever it fails.
-/
import TenantFleet.Proofs.Pass.Persist
import TenantFleet.Proofs.Workers.Trial

namespace TenantFleet.Workers

open Program Program.Safe

variable {x : Scope} {w w' : World}

/-! ## How a pass ends -/

/-- Whether a failure leaves old instances behind: their deletion fails, or that of a node that is
not the first. A node that does not exist is no failure. -/
def Strands (old : List Worker) : Fault → Prop
  | ⟨.cloud _ _ (.deleteInstances _ _), _⟩ => True
  | ⟨.tenant _ _ (.deleteNode name), e⟩ => e.isNotFound = false ∧
    old.head?.map Worker.nodeName ≠ some name
  | _ => False

/-- Whether a worker has lost its node but not its instance. -/
structure Stranded (s : Trial) (v : Worker) : Prop where
  node : s.world.nodes.get? v.nodeName = none
  remaining : v.inst.instanceId ∉ s.removed

/-- Whether the instances of all workers of a list were deleted. -/
def Cleared (old : List Worker) (s : Trial) : Prop := ∀ v ∈ old, v.inst.instanceId ∈ s.removed

/-- Whether nothing was done in a trial yet, but for a write that stays in the stage. -/
structure Fresh (x : Scope) (s₀ s : Trial) : Prop where
  pool : SamePool x s₀.world s.world
  stage : InRemoval x s.world
  removed : s.removed = s₀.removed

/-- Whether a call failed since a moment whose failure leaves old instances behind. -/
def Struck (x : Scope) (s₀ s : Trial) : Prop :=
  s₀.fault = none ∧ ∃ f, s.fault = some f ∧ Strands (workersIn x s₀.world).old f

/-- How a pass in the stage of the removal leaves the old workers: stranded when it was struck, and
else all or none of them deleted. -/
structure Settled (x : Scope) (s₀ s : Trial) : Prop where
  struck : Struck x s₀ s → ∃ v ∈ (workersIn x s₀.world).old, Stranded s v
  spared : ¬Struck x s₀ s → Fresh x s₀ s ∨ Cleared (workersIn x s₀.world).old s

/-- What no call of a pass undoes since a moment: the world stays regular, no node comes back, only
instances with nodes are deleted, the others stay, and one failure is all. -/
structure Steadfast (x : Scope) (s₀ s : Trial) : Prop where
  regular : Regular x s.world
  nodes : ∀ {key}, s₀.world.nodes.get? key = none → s.world.nodes.get? key = none
  grown : ∀ {id}, id ∈ s₀.removed → id ∈ s.removed
  spared : ∀ {id}, id ∈ s.removed → id ∉ s₀.removed →
    s₀.world.nodes.get? (nodeName x.scaleSet id) ≠ none
  kept : ∀ {v}, v ∈ x.instances s₀.world → v.instanceId ∉ s.removed → v ∈ x.instances s.world
  faulted : s₀.fault ≠ none → s.fault = s₀.fault

/-- What the calls of a pass are held to. -/
def steadfast (x : Scope) (s₀ : Trial) : Demand Trial :=
  ⟨fun _ s => Steadfast x s₀ s, fun _ _ _ => True⟩

theorem Steadfast.refl {s : Trial} (hs : Regular x s.world) : Steadfast x s s :=
  ⟨hs, fun h => h, fun h => h, fun h h' => absurd h h', fun h _ => h, fun _ => rfl⟩

theorem Fresh.refl {s : Trial} (hs : InRemoval x s.world) : Fresh x s s := ⟨.refl x _, hs, rfl⟩

variable {s₀ s s' : Trial} {asked : List Asked}

/-- A failure without effect undoes nothing. -/
theorem Steadfast.fail (h : Steadfast x s₀ s) (hs : s.fault = none) (f : Fault) :
    Steadfast x s₀ { s with fault := some f } := by
  refine ⟨h.regular, h.nodes, h.grown, h.spared, h.kept, ?_⟩
  intro hne
  rw [h.faulted hne] at hs
  exact absurd hs hne

/-- A call that leaves the workers as they are undoes nothing. -/
theorem Steadfast.samePool (h : Steadfast x s₀ s) (hw : Regular x w)
    (hpool : SamePool x s.world w) :
    Steadfast x s₀ { s with world := w } := by
  refine ⟨hw, ?_, h.grown, h.spared, ?_, h.faulted⟩
  · intro key hkey
    show w.nodes.get? key = none
    rw [hpool.nodes]
    exact h.nodes hkey
  · intro v hv hid
    show v ∈ x.instances w
    rw [hpool.instances]
    exact h.kept hv hid

/-- A call that changes nothing undoes nothing. -/
theorem Steadfast.unchanged (h : Steadfast x s₀ s) (hw : Unchanged x s.world w) :
    Steadfast x s₀ { s with world := w } :=
  h.samePool hw.regular hw.pool

/-- Nothing is done by a call that changes nothing. -/
theorem Fresh.unchanged (h : Fresh x s₀ s) (hw : Unchanged x s.world w) :
    Fresh x s₀ { s with world := w } :=
  ⟨h.pool.trans hw.pool, h.stage.of_saves hw.saves, h.removed⟩

/-- A failure without effect does nothing. -/
theorem Fresh.fail (h : Fresh x s₀ s) (f : Fault) : Fresh x s₀ { s with fault := some f } :=
  ⟨h.pool, h.stage, h.removed⟩

/-- Where nothing was done and nothing struck, all old workers are as they were. -/
theorem Fresh.settled (h : Fresh x s₀ s) (hunstruck : ¬Struck x s₀ s) : Settled x s₀ s :=
  ⟨fun hstruck => absurd hstruck hunstruck, fun _ => Or.inl h⟩

/-- As long as no call fails, none has struck. -/
theorem not_struck_of_fault (h : s.fault = s₀.fault) : ¬Struck x s₀ s := by
  rintro ⟨hnone, f, hf, -⟩
  rw [h, hnone] at hf
  cases hf

/-- A failure that leaves nothing behind does not strike. -/
theorem not_struck_of_fail {f : Fault} (h : ¬Strands (workersIn x s₀.world).old f) :
    ¬Struck x s₀ { s with fault := some f } := by
  rintro ⟨-, f', hf, hstrands⟩
  cases hf
  exact h hstrands

/-- A look that fails leaves nothing behind. -/
theorem not_strands_of_looks {c : Call} (hc : Looks x c) (e : c.Failure) (old : List Worker) :
    ¬Strands old ⟨c, e⟩ := by
  intro h
  cases c with
  | cloud account group k =>
    cases k with
    | deleteInstances name ids => exact hc.elim
    | _ => exact h.elim
  | tenant space clusterId k =>
    cases k with
    | deleteNode name => exact hc.elim
    | _ => exact h.elim
  | _ => exact h.elim

/-- A look deletes no instance. -/
theorem removedBy_of_looks {c : Call} (hc : Looks x c) (r : Except c.Failure c.Answer)
    (ids : List String) :
    removedBy x c r ids = ids := by
  cases c with
  | cloud account group k =>
    cases k with
    | deleteInstances name ids => exact hc.elim
    | _ => rfl
  | _ => rfl

/-- A look of a pass that has done nothing: it goes on with what is there, or ends. -/
theorem safe_look {c : Call} (hc : Looks x c) {Q : c.Answer → Prop} (halways : Steadfast x s₀ s)
    (hfresh : Fresh x s₀ s) (hfault : s.fault = s₀.fault)
    (hQ : ∀ a, (World.answer c s.world).1 = .ok a → Q a) :
    Safe (trials x) (steadfast x s₀)
      (Ends (fun _ s a => Fresh x s₀ s ∧ s.fault = s₀.fault ∧ Q a) fun _ s => Settled x s₀ s)
      (Program.call c) asked s := by
  have hw := unchanged_of_looks halways.regular hc
  refine Safe.callEnds halways trivial ?_
  rintro r s' (⟨hnone, e, rfl, rfl⟩ | ⟨rfl, rfl⟩)
  · have hunstruck :=
      not_struck_of_fail (s := s) (not_strands_of_looks hc e (workersIn x s₀.world).old)
    refine ⟨halways.fail hnone _, fun _ h => (by cases h), fun _ _ => ?_⟩
    exact (hfresh.fail _).settled hunstruck
  · rw [removedBy_of_looks hc]
    refine ⟨halways.unchanged hw, ?_, ?_⟩
    · exact fun a ha => ⟨hfresh.unchanged hw, hfault, hQ a ha⟩
    · exact fun _ _ => (hfresh.unchanged hw).settled (not_struck_of_fault hfault)

/-- Looking for the tenant does nothing. -/
theorem settled_usableTenant (halways : Steadfast x s₀ s) (hfresh : Fresh x s₀ s)
    (hfault : s.fault = s₀.fault) :
    Safe (trials x) (steadfast x s₀)
      (Ends (fun _ s found => Fresh x s₀ s ∧ s.fault = s₀.fault ∧
        ∀ tenant, found = some tenant → tenant = ⟨x.space, x.clusterId⟩) fun _ s => Settled x s₀ s)
      (usableTenant? x) asked s := by
  have hnone : ∀ tenant, none = some tenant → tenant = (⟨x.space, x.clusterId⟩ : Tenant) :=
    fun _ h => by cases h
  refine (safe_look (Q := fun _ => True) (by trivial) halways hfresh hfault
    fun _ _ => trivial).andThen ?_
  rintro asked s found halways ⟨hfresh, hfault, -⟩
  cases found with
  | none => exact Safe.pure halways ⟨hfresh, hfault, hnone⟩
  | some cluster =>
    dsimp only
    split
    · exact Safe.pure halways ⟨hfresh, hfault, hnone⟩
    · refine (safe_look (Q := fun _ => True) (by trivial) halways hfresh hfault
        fun _ _ => trivial).andThen ?_
      rintro asked s reachable halways ⟨hfresh, hfault, -⟩
      refine Safe.pure halways ⟨hfresh, hfault, fun tenant h => ?_⟩
      cases reachable with
      | false => cases h
      | true => exact (Option.some.inj h).symm

/-- Looking at the workers does nothing, and finds those that there were at the beginning. -/
theorem settled_survey (halways : Steadfast x s₀ s) (hfresh : Fresh x s₀ s)
    (hfault : s.fault = s₀.fault) :
    Safe (trials x) (steadfast x s₀)
      (Ends (fun _ s found => Fresh x s₀ s ∧ s.fault = s₀.fault ∧ found.2 = workersIn x s₀.world)
        fun _ s => Settled x s₀ s)
      (survey x ⟨x.space, x.clusterId⟩) asked s := by
  refine (safe_look (c := .cloud x.account x.clusterId (.getScaleSet x.scaleSet))
    (Q := fun S => x.scaleSet? s₀.world = some S) rfl halways hfresh hfault ?_).andThen ?_
  · intro S hS
    rw [← hfresh.pool.scaleSet]
    exact answer_getScaleSet halways.regular hS
  rintro asked s S halways ⟨hfresh, hfault, hS⟩
  refine (safe_look (c := .cloud x.account x.clusterId (.listInstances x.scaleSet))
    (Q := fun L => L = x.instances s₀.world) rfl halways hfresh hfault ?_).andThen ?_
  · intro L hL
    rw [← hfresh.pool.instances]
    exact answer_listInstances halways.regular hL
  rintro asked s L halways ⟨hfresh, hfault, rfl⟩
  refine (safe_look (c := .tenant x.space x.clusterId
    (.listNodes (some (Name.poolSelector x.poolName))))
    (Q := fun N => N = nodesOf x s₀.world) trivial halways hfresh hfault ?_).andThen ?_
  · intro N hN
    rw [nodesOf, ← hfresh.pool.nodes]
    exact answer_listNodes halways.regular hN
  rintro asked s N halways ⟨hfresh, hfault, rfl⟩
  refine Safe.pure halways ⟨hfresh, hfault, ?_⟩
  unfold workersIn
  rw [hS]
  rfl

/-! ## Removing nodes -/

/-- Whether a node has gone from a world and nothing else that a pass could find. -/
structure NodeGone (x : Scope) (name : String) (w w' : World) : Prop where
  regular : Regular x w'
  nodes : ∀ key, w'.nodes.get? key = if name = key then none else w.nodes.get? key
  instances : x.instances w' = x.instances w
  saves : w'.saves = w.saves

/-- How the deletion of a node is answered. -/
theorem performTenant_deleteNode (w : World) (name : String) :
    w.performTenant (.deleteNode name) =
      if w.nodes.contains name then
        (.ok (), { w with nodes := w.nodes.erase name, deletedNodes := w.deletedNodes ++ [name] })
      else (.error (.notFound ("node " ++ name)), w) := rfl

/-- A node that was deleted has gone, and so has one that did not exist. -/
theorem nodeGone_of_answer (hw : Regular x w) (space clusterId name : String) :
    NodeGone x name w (World.answer (.tenant space clusterId (.deleteNode name)) w).2 ∧
      ∀ e, (World.answer (.tenant space clusterId (.deleteNode name)) w).1 = .error e →
        e.isNotFound = true := by
  rw [World.answer_of_steady hw.calm fun _ _ _ h => by cases h]
  show NodeGone x name w
      ((w.record (.tenant space clusterId (.deleteNode name))).performTenant (.deleteNode name)).2 ∧
    ∀ e, ((w.record (.tenant space clusterId (.deleteNode name))).performTenant
      (.deleteNode name)).1 = .error e →
      e.isNotFound = true
  rw [performTenant_deleteNode]
  split
  · refine ⟨⟨⟨?_, hw.calm, hw.cloudCalm⟩, fun key => Dict.get?_erase _ _ _, rfl, rfl⟩,
      fun e h => by cases h⟩
    intro key n hn
    rw [Dict.get?_erase] at hn
    split at hn
    · cases hn
    · exact hw.named hn
  · rename_i hmissing
    have hnone : w.nodes.get? name = none := by
      have hcontains : w.nodes.contains name = false := Bool.eq_false_iff.2 hmissing
      rw [Dict.contains, Option.isSome_eq_false_iff, Option.isNone_iff_eq_none] at hcontains
      exact hcontains
    refine ⟨⟨⟨hw.named, hw.calm, hw.cloudCalm⟩, fun key => ?_, rfl, rfl⟩,
      fun e h => by cases h; rfl⟩
    split
    · rename_i hkey
      rw [← hkey]
      exact hnone
    · rfl

/-- A node that has gone undoes nothing. -/
theorem Steadfast.nodeGone (h : Steadfast x s₀ s) {name : String} (hw : NodeGone x name s.world w) :
    Steadfast x s₀ { s with world := w } := by
  refine ⟨hw.regular, ?_, h.grown, h.spared, ?_, h.faulted⟩
  · intro key hkey
    show w.nodes.get? key = none
    rw [hw.nodes]
    split
    · rfl
    · exact h.nodes hkey
  · intro v hv hid
    show v ∈ x.instances w
    rw [hw.instances]
    exact h.kept hv hid

/-- Events are nothing to a pool. -/
theorem unchanged_note (hw : Regular x w) (event : Event) :
    Unchanged x w (World.handler.note event w) :=
  ⟨⟨hw.named, hw.calm, hw.cloudCalm⟩, ⟨rfl, rfl, rfl⟩, rfl⟩

/-- How far the removal of the nodes is: those of the first workers have gone, unless a node that
was taken to be missing is still there. -/
structure Removing (x : Scope) (s₀ : Trial) (first : List Worker) (s : Trial) : Prop where
  removed : s.removed = s₀.removed
  unstruck : ¬Struck x s₀ s
  fresh : first = [] → Fresh x s₀ s
  gone : s.fault = none → ∀ v ∈ first, s.world.nodes.get? v.nodeName = none

/-- A call that fails now is the first one. -/
theorem Steadfast.faultless (h : Steadfast x s₀ s) (hs : s.fault = none) : s₀.fault = none := by
  cases hbefore : s₀.fault with
  | none => rfl
  | some f =>
    have hfault := h.faulted (by simp [hbefore])
    rw [hs, hbefore] at hfault
    cases hfault

/-- A worker whose node has gone is stranded by a call that strikes before any instance is
deleted. -/
theorem Removing.stranded {first : List Worker} {v : Worker} {f : Fault} (h : Removing x s₀ first s)
    (halways : Steadfast x s₀ s) (hstart : s₀.fault = none → s₀.removed = []) (hs : s.fault = none)
    (hv : v ∈ first) (hold : v ∈ (workersIn x s₀.world).old)
    (hf : Strands (workersIn x s₀.world).old f) :
    Settled x s₀ { s with fault := some f } := by
  have hbefore := halways.faultless hs
  have hremaining : v.inst.instanceId ∉ s.removed := by
    rw [h.removed, hstart hbefore]
    exact List.not_mem_nil
  exact ⟨fun _ => ⟨v, hold, h.gone hs v hv, hremaining⟩,
    fun hspared => absurd ⟨hbefore, f, rfl, hf⟩ hspared⟩

/-- A node that cannot be removed strands the workers before it. -/
theorem Removing.settled {first rest : List Worker} {v : Worker} (h : Removing x s₀ first s)
    (halways : Steadfast x s₀ s) (hold : (workersIn x s₀.world).old = first ++ v :: rest)
    (hstart : s₀.fault = none → s₀.removed = []) (hs : s.fault = none) {e : TenantError}
    (he : e.isNotFound = false) :
    Settled x s₀
      { s with fault := some ⟨.tenant x.space x.clusterId (.deleteNode v.nodeName), e⟩ } := by
  cases first with
  | nil =>
    -- It is the first of all old workers, so nothing was done yet.
    have hunstruck : ¬Struck x s₀
        { s with fault := some ⟨.tenant x.space x.clusterId (.deleteNode v.nodeName), e⟩ } := by
      refine not_struck_of_fail fun hstrands => hstrands.2 ?_
      rw [hold]
      rfl
    exact ((h.fresh rfl).fail _).settled hunstruck
  | cons u others =>
    -- The first of them is not this one, as no two old workers have nodes of one name.
    have hstrands : Strands (workersIn x s₀.world).old
        ⟨.tenant x.space x.clusterId (.deleteNode v.nodeName), e⟩ := by
      refine ⟨he, ?_⟩
      intro hname
      have hnodup := nodup_old x s₀.world
      rw [hold] at hname hnodup
      have huv : u.nodeName = v.nodeName := Option.some.inj hname
      rw [List.cons_append, List.map_cons, List.nodup_cons, List.map_append,
        List.map_cons] at hnodup
      refine hnodup.1 (List.mem_append_right _ ?_)
      rw [huv]
      exact List.mem_cons_self
    have hu : u ∈ (workersIn x s₀.world).old := by
      rw [hold]
      exact List.mem_cons_self
    exact h.stranded halways hstart hs List.mem_cons_self hu hstrands

/-- A node that is taken to be missing is passed over, and so may stay. -/
theorem Removing.missed {first : List Worker} {v : Worker} (h : Removing x s₀ first s)
    {e : TenantError} (he : e.isNotFound = true) :
    Removing x s₀ (first ++ [v])
      { s with fault := some ⟨.tenant x.space x.clusterId (.deleteNode v.nodeName), e⟩ } := by
  refine ⟨h.removed, ?_, fun hnil => by simp at hnil, fun hnone => by cases hnone⟩
  refine not_struck_of_fail fun hstrands => ?_
  have hfound : e.isNotFound = false := hstrands.1
  rw [he] at hfound
  cases hfound

/-- With the node of the next worker gone, the nodes of one more have gone. -/
theorem Removing.nodeGone {first : List Worker} {v : Worker} (h : Removing x s₀ first s)
    (hw : NodeGone x v.nodeName s.world w) :
    Removing x s₀ (first ++ [v]) { s with world := w } := by
  refine ⟨h.removed, h.unstruck, fun hnil => by simp at hnil, fun hs u hu => ?_⟩
  show w.nodes.get? u.nodeName = none
  rw [hw.nodes]
  split
  · rfl
  · rename_i hne
    rcases List.mem_append.1 hu with hu | hu
    · exact h.gone hs u hu
    · rw [List.mem_singleton] at hu
      exact absurd (congrArg Worker.nodeName hu).symm hne

/-- Removing a node leads on to the next one, or strands the workers before it. -/
theorem safe_removeWorker {first rest : List Worker} {v : Worker}
    (hold : (workersIn x s₀.world).old = first ++ v :: rest)
    (hstart : s₀.fault = none → s₀.removed = []) (halways : Steadfast x s₀ s)
    (h : Removing x s₀ first s) :
    Safe (trials x) (steadfast x s₀)
      (Ends (fun _ s _ => Removing x s₀ (first ++ [v]) s) fun _ s => Settled x s₀ s)
      (removeWorker x ⟨x.space, x.clusterId⟩ v) asked s := by
  refine Safe.andThen (Q := fun _ s _ => Removing x s₀ (first ++ [v]) s) ?_ ?_
  · refine ⟨halways, trivial, ?_⟩
    rintro r s' (⟨hs, e, rfl, rfl⟩ | ⟨hr, rfl⟩)
    · have hnow := halways.fail hs ⟨.tenant x.space x.clusterId (.deleteNode v.nodeName), e⟩
      cases he : e.isNotFound with
      | false =>
        have hend : Tenant.unlessMissing (.error e) = .done (.error (.tenant e)) := by
          simp [Tenant.unlessMissing, he]
        rw [hend]
        exact ⟨hnow, h.settled halways hold hstart hs he⟩
      | true =>
        have hend : Tenant.unlessMissing (.error e) = .done (.ok ()) := by
          simp [Tenant.unlessMissing, he]
        rw [hend]
        exact Safe.pure hnow (h.missed he)
    · obtain ⟨hgone, hmissing⟩ := nodeGone_of_answer halways.regular x.space x.clusterId v.nodeName
      have hend : Tenant.unlessMissing r = .done (.ok ()) := by
        cases r with
        | ok a => rfl
        | error e => simp [Tenant.unlessMissing, hmissing e hr.symm]
      rw [hend]
      exact Safe.pure (halways.nodeGone hgone) (h.nodeGone hgone)
  · intro asked s _ halways h
    have hw :=
      unchanged_note halways.regular (.termination x.clusterId v.nodeName v.inst.instanceId)
    refine ⟨halways, Safe.pure (halways.unchanged hw) ?_⟩
    exact ⟨h.removed, h.unstruck, fun hnil => by simp at hnil, h.gone⟩

/-! ## Deleting instances -/

/-- Whether the instances of all old workers were deleted, whatever has failed. -/
structure Emptied (x : Scope) (s₀ s : Trial) : Prop where
  unstruck : ¬Struck x s₀ s
  cleared : Cleared (workersIn x s₀.world).old s

/-- Where all instances were deleted, none is stranded. -/
theorem Emptied.settled (h : Emptied x s₀ s) : Settled x s₀ s :=
  ⟨fun hstruck => absurd hstruck h.unstruck, fun _ => Or.inr h.cleared⟩

/-- All instances are deleted by one call. -/
theorem Removing.emptied {first : List Worker} (h : Removing x s₀ first s) (w : World) :
    Emptied x s₀ { s with
      world := w
      removed := s.removed ++ (workersIn x s₀.world).old.map fun v => v.inst.instanceId } :=
  ⟨h.unstruck, fun v hv => List.mem_append_right _ (List.mem_map.2 ⟨v, hv, rfl⟩)⟩

/-- How the deletion of instances is answered. -/
theorem performCloud_deleteInstances (s : Subscription) (group name : String) (ids : List String) :
    (s.perform group (.deleteInstances name ids)).2 = s.deleteInstances name ids := rfl

/-- The instances of the pool after some were deleted. -/
theorem instances_deleteInstances (hw : Regular x w) (group : String) (ids : List String) :
    x.instances (World.answer (.cloud x.account group (.deleteInstances x.scaleSet ids)) w).2 =
      (x.instances w).filter fun v => v.instanceId ∉ ids := by
  rw [World.answer_cloud_of_steady hw.cloudCalm, performCloud_deleteInstances]
  unfold Scope.instances Subscription.instancesOf
  rw [World.subscription_setSubscription]
  unfold Subscription.deleteInstances Dict.getD
  rw [Dict.get?_insert_self]
  rfl

/-- A request to the cloud leaves the nodes alone. -/
theorem nodes_cloud (hw : Regular x w) (group : String) (k : CloudCall) :
    (World.answer (.cloud x.account group k) w).2.nodes = w.nodes := by
  rw [World.answer_cloud_of_steady hw.cloudCalm]
  exact World.nodes_setSubscription _ _ _

/-- A request about scale sets leaves the nodes alone and fails no later call. -/
theorem regular_cloud (hw : Regular x w) {group : String} {k : CloudCall}
    (hk : ∀ s : Subscription, (s.perform group k).2.failures = s.failures) :
    Regular x (World.answer (.cloud x.account group k) w).2 := by
  refine ⟨?_, ?_, ?_⟩
  · rw [nodes_cloud hw]
    exact hw.named
  · rw [World.answer_cloud_of_steady hw.cloudCalm, World.failures_setSubscription]
    exact hw.calm
  · rw [World.answer_cloud_of_steady hw.cloudCalm, World.subscription_setSubscription, hk]
    exact hw.cloudCalm

/-- The instances that were deleted are known. -/
theorem removedBy_deleteInstances (hw : Regular x w) (group : String) (l ids : List String) :
    removedBy x (.cloud x.account group (.deleteInstances x.scaleSet l))
      (World.answer (.cloud x.account group (.deleteInstances x.scaleSet l)) w).1 ids =
        ids ++ l := by
  rw [World.answer_cloud_of_steady hw.cloudCalm]
  exact if_pos rfl

/-- Deleting the instances of the old workers undoes nothing. -/
theorem Steadfast.deleteInstances (h : Steadfast x s₀ s) (hw : Regular x s₀.world) :
    Steadfast x s₀ { s with
      world := (World.answer (.cloud x.account x.clusterId (.deleteInstances x.scaleSet
        ((workersIn x s₀.world).old.map fun v => v.inst.instanceId))) s.world).2
      removed := s.removed ++ (workersIn x s₀.world).old.map fun v => v.inst.instanceId } := by
  refine ⟨regular_cloud h.regular fun _ => rfl, ?_, ?_, ?_, ?_, h.faulted⟩
  · intro key hkey
    rw [nodes_cloud h.regular]
    exact h.nodes hkey
  · exact fun hid => List.mem_append_left _ (h.grown hid)
  · intro id hid hbefore
    rcases List.mem_append.1 hid with hid | hid
    · exact h.spared hid hbefore
    · obtain ⟨v, hv, rfl⟩ := List.mem_map.1 hid
      obtain ⟨-, hname, hnode⟩ := old_worker hw hv
      rw [← hname, hnode]
      exact Option.some_ne_none _
  · intro v hv hid
    have hleft : v.instanceId ∉ s.removed := fun h => hid (List.mem_append_left _ h)
    have hspared : v.instanceId ∉ (workersIn x s₀.world).old.map fun v => v.inst.instanceId :=
      fun h => hid (List.mem_append_right _ h)
    rw [instances_deleteInstances h.regular]
    exact List.mem_filter.2 ⟨h.kept hv hleft, by simpa using hspared⟩

/-- Whether a call takes no worker from the pool and brings nothing back: a look, a change of the
scale set, or a write. -/
def Harmless (x : Scope) (c : Call) : Prop :=
  Looks x c ∨ (∃ value, c = .cloud x.account x.clusterId (.putScaleSet x.scaleSet value)) ∨
    ∃ target handler values, c = .saveStatus target handler values

/-- The instances of the pool stay when its scale set changes. -/
theorem subset_putScaleSet (hw : Regular x w) (group : String) (value : ScaleSet) {v : Instance}
    (hv : v ∈ x.instances w) :
    v ∈ x.instances
      (World.answer (.cloud x.account group (.putScaleSet x.scaleSet value)) w).2 := by
  rw [World.answer_cloud_of_steady hw.cloudCalm]
  unfold Scope.instances
  rw [World.subscription_setSubscription]
  show v ∈ (Subscription.putScaleSet _ group x.scaleSet value).instancesOf x.scaleSet
  unfold Subscription.putScaleSet Subscription.instancesOf Dict.getD
  rw [Dict.get?_insert_self]
  exact List.mem_append_left _ hv

/-- A write leaves the workers as they are. -/
theorem answer_saveStatus (hw : Regular x w) (target : StatusTarget) (handler : String)
    (values : Dict String) :
    Regular x (World.answer (.saveStatus target handler values) w).2 ∧
      SamePool x w (World.answer (.saveStatus target handler values) w).2 ∧
      (World.answer (.saveStatus target handler values) w).2.saves =
        w.saves ++ [⟨target, handler, values⟩] := by
  have hsubscription : ∀ (w : World) (l : List SavedState),
      ({ w with saves := l } : World).subscription x.account = w.subscription x.account := by
    intro w l
    cases x.account <;> rfl
  rw [World.answer_of_steady hw.calm fun _ _ _ h => by cases h]
  show Regular x { w.record _ with saves := _ } ∧ SamePool x w { w.record _ with saves := _ } ∧ _
  refine ⟨⟨hw.named, hw.calm, ?_⟩, ⟨rfl, ?_, ?_⟩, rfl⟩
  · rw [hsubscription, World.subscription_record]
    exact hw.cloudCalm
  · rw [Scope.instances, hsubscription, World.subscription_record, Scope.instances]
  · rw [Scope.scaleSet?, hsubscription, World.subscription_record, Scope.scaleSet?]

/-- A harmless call undoes nothing. -/
theorem Steadfast.harmless (h : Steadfast x s₀ s) {c : Call} (hc : Harmless x c) :
    Steadfast x s₀ { s with world := (World.answer c s.world).2 } := by
  rcases hc with hc | ⟨value, rfl⟩ | ⟨target, handler, values, rfl⟩
  · exact h.unchanged (unchanged_of_looks h.regular hc)
  · refine ⟨regular_cloud h.regular fun _ => rfl, ?_, h.grown, h.spared, ?_, h.faulted⟩
    · intro key hkey
      rw [nodes_cloud h.regular]
      exact h.nodes hkey
    · exact fun hv hid => subset_putScaleSet h.regular x.clusterId value (h.kept hv hid)
  · obtain ⟨hw, hpool, -⟩ := answer_saveStatus h.regular target handler values
    exact h.samePool hw hpool

/-- A harmless call that fails leaves nothing behind. -/
theorem Harmless.not_strands {c : Call} (hc : Harmless x c) (e : c.Failure) (old : List Worker) :
    ¬Strands old ⟨c, e⟩ := by
  rcases hc with hc | ⟨value, rfl⟩ | ⟨target, handler, values, rfl⟩
  · exact not_strands_of_looks hc e old
  · exact id
  · exact id

/-- A harmless call deletes nothing. -/
theorem Harmless.removedBy_eq {c : Call} (hc : Harmless x c) (r : Except c.Failure c.Answer)
    (ids : List String) :
    removedBy x c r ids = ids := by
  rcases hc with hc | ⟨value, rfl⟩ | ⟨target, handler, values, rfl⟩
  · exact removedBy_of_looks hc r ids
  · rfl
  · rfl

/-- After a harmless call all instances are still deleted. -/
theorem Emptied.harmless {c : Call} {r : Except c.Failure c.Answer} (h : Emptied x s₀ s)
    (halways : Steadfast x s₀ s) (hc : Harmless x c) (turn : (trials x).answers c s r s') :
    Steadfast x s₀ s' ∧ Emptied x s₀ s' := by
  rcases turn with ⟨hs, e, rfl, rfl⟩ | ⟨rfl, rfl⟩
  · exact ⟨halways.fail hs _, not_struck_of_fail (hc.not_strands e _), h.cleared⟩
  · rw [hc.removedBy_eq]
    exact ⟨halways.harmless hc, ⟨h.unstruck, h.cleared⟩⟩

/-- A harmless call after all instances were deleted. -/
theorem safe_harmless {c : Call} (hc : Harmless x c) (halways : Steadfast x s₀ s)
    (h : Emptied x s₀ s) :
    Safe (trials x) (steadfast x s₀) (Ends (fun _ s _ => Emptied x s₀ s) fun _ s => Settled x s₀ s)
      (Program.call c) asked s := by
  refine Safe.callEnds halways trivial ?_
  intro r s' turn
  obtain ⟨hnow, hend⟩ := h.harmless halways hc turn
  exact ⟨hnow, fun _ _ => hend, fun _ _ => hend.settled⟩

/-- Deleting the instances of the old workers deletes all of them, or none. -/
theorem safe_deleteInstances (hw : Regular x s₀.world) (hstart : s₀.fault = none → s₀.removed = [])
    (halways : Steadfast x s₀ s) (h : Removing x s₀ (workersIn x s₀.world).old s) :
    Safe (trials x) (steadfast x s₀) (Ends (fun _ s _ => Emptied x s₀ s) fun _ s => Settled x s₀ s)
      (deleteInstances x ((workersIn x s₀.world).old.map fun v => v.inst.instanceId)) asked s := by
  unfold Workers.deleteInstances
  cases hold : (workersIn x s₀.world).old with
  | nil =>
    refine Safe.pure halways ⟨h.unstruck, ?_⟩
    rw [hold]
    exact fun _ hv => by cases hv
  | cons u others =>
    have hu : u ∈ (workersIn x s₀.world).old := by
      rw [hold]
      exact List.mem_cons_self
    rw [← hold]
    have hsome : ((workersIn x s₀.world).old.map fun v => v.inst.instanceId).isEmpty = false := by
      rw [hold]
      rfl
    rw [hsome]
    refine Safe.andThen (Q := fun _ s _ => Emptied x s₀ s)
      (Safe.callEnds (c := .cloud x.account x.clusterId (.deleteInstances x.scaleSet _)) halways
        trivial ?_) ?_
    · rintro r s' (⟨hs, e, rfl, rfl⟩ | ⟨rfl, rfl⟩)
      · -- The nodes of all old workers have gone by now, so that of any one of them has.
        refine ⟨halways.fail hs _, fun _ h => (by cases h), fun _ _ => ?_⟩
        exact h.stranded halways hstart hs hu hu trivial
      · rw [removedBy_deleteInstances halways.regular]
        exact ⟨halways.deleteInstances hw, fun _ _ => h.emptied _, fun _ _ => (h.emptied _).settled⟩
    · intro asked s operation halways h
      exact safe_harmless (Or.inl rfl) halways h

/-! ## The pass -/

/-- How the removal leaves the old workers when it ends well with a stage: it stays in its stage
only when it did nothing, and leaves it only when it deleted all instances. -/
def Concluded (x : Scope) (s₀ : Trial) (stage : WorkersStage) (s : Trial) : Prop :=
  (stage = .scaleDown ∧ ¬Struck x s₀ s ∧ Fresh x s₀ s) ∨ Emptied x s₀ s

theorem Concluded.settled {stage : WorkersStage} (h : Concluded x s₀ stage s) : Settled x s₀ s := by
  rcases h with ⟨-, hstruck, hfresh⟩ | h
  · exact hfresh.settled hstruck
  · exact h.settled

/-- Writing the stage down changes nothing of that, whether it fails or not. -/
theorem Concluded.saved {stage : WorkersStage} {values : Dict String}
    {r : Except Error Unit} (h : Concluded x s₀ stage s) (halways : Steadfast x s₀ s)
    (hvalues : values.get? HandlerState.stageKey = some (Stage.name stage))
    (turn : (trials x).answers (.saveStatus (StatusTarget.ofPool x.pool) handler values) s r s') :
    Steadfast x s₀ s' ∧ Concluded x s₀ stage s' := by
  have hharmless : Harmless x (.saveStatus (StatusTarget.ofPool x.pool) handler values) :=
    Or.inr (Or.inr ⟨_, _, _, rfl⟩)
  rcases h with ⟨rfl, hstruck, hfresh⟩ | h
  · rcases turn with ⟨hs, e, rfl, rfl⟩ | ⟨rfl, rfl⟩
    · exact ⟨halways.fail hs _,
        Or.inl ⟨rfl, not_struck_of_fail (hharmless.not_strands e _), hfresh.fail _⟩⟩
    · obtain ⟨hw, hpool, hsaves⟩ :=
        answer_saveStatus halways.regular (StatusTarget.ofPool x.pool) handler values
      exact ⟨halways.samePool hw hpool,
        Or.inl ⟨rfl, hstruck, hfresh.pool.trans hpool, inRemoval_of_saved hvalues hsaves,
          hfresh.removed⟩⟩
  · obtain ⟨hnow, hend⟩ := h.harmless halways hharmless turn
    exact ⟨hnow, Or.inr hend⟩

/-- Events change nothing of it either. -/
theorem Concluded.noted {stage : WorkersStage} (h : Concluded x s₀ stage s)
    (halways : Steadfast x s₀ s) (event : Event) :
    Steadfast x s₀ ((trials x).note event s) ∧ Concluded x s₀ stage ((trials x).note event s) := by
  have hw := unchanged_note halways.regular event
  refine ⟨halways.unchanged hw, ?_⟩
  rcases h with ⟨hstage, hstruck, hfresh⟩ | h
  · exact Or.inl ⟨hstage, hstruck, hfresh.unchanged hw⟩
  · exact Or.inr ⟨h.unstruck, h.cleared⟩

/-- The removal does nothing, or deletes all instances, unless it is struck. -/
theorem safe_scaleDown (hw : Regular x s₀.world) (hstart : s₀.fault = none → s₀.removed = [])
    (hstage : InRemoval x s₀.world) :
    Safe (trials x) (steadfast x s₀)
      (Ends (fun _ s t => Concluded x s₀ t.stage s) fun _ s => Settled x s₀ s)
        (Workers.scaleDown x) [] s₀ := by
  refine (settled_usableTenant (.refl hw) (.refl hstage) rfl).andThen ?_
  rintro asked s found halways ⟨hfresh, hfault, htenant⟩
  cases found with
  | none => exact Safe.pure halways (Or.inl ⟨rfl, not_struck_of_fault hfault, hfresh⟩)
  | some tenant =>
    rw [htenant tenant rfl]
    refine (settled_survey halways hfresh hfault).andThen ?_
    rintro asked s ⟨scaleSet, workers⟩ halways ⟨hfresh, hfault, hfound⟩
    dsimp only at hfound ⊢
    rw [hfound]
    -- The nodes of the old workers go one after the other, and their instances with one call.
    have hremoving : Removing x s₀ [] s :=
      ⟨hfresh.removed, not_struck_of_fault hfault, fun _ => hfresh, fun _ _ hv => by cases hv⟩
    refine Safe.andThen (Q := fun _ s _ => Removing x s₀ (workersIn x s₀.world).old s)
      (Safe.forEachFrom (I := fun first _ s => Removing x s₀ first s) [] hremoving halways ?_) ?_
    · intro first v rest hold asked s halways h
      exact safe_removeWorker hold hstart halways h
    intro asked s _ halways h
    refine (safe_deleteInstances hw hstart halways h).andThen ?_
    intro asked s _ halways h
    -- From here on the old instances have gone, whatever fails.
    refine Safe.andThen (safe_harmless (Or.inl rfl) halways h) ?_
    intro asked s scaleSet halways h
    refine Safe.andThen (Q := fun _ s _ => Emptied x s₀ s) ?_ ?_
    · refine Safe.andThen (safe_harmless (Or.inr (Or.inl ⟨_, rfl⟩)) halways h) ?_
      intro asked s operation halways h
      exact safe_harmless (Or.inl rfl) halways h
    · exact fun asked s _ halways h => Safe.pure halways (Or.inr h)

/-- Reading the pool again changes nothing but its status, which the removal does not look at. -/
theorem scaleDown_reread (x : Scope) (w : World) :
    Workers.scaleDown (x.reread w) = Workers.scaleDown x := by
  have htenant : usableTenant? (x.reread w) = usableTenant? x := by
    refine congrArg (Program.bind (Program.call (.getCluster x.space x.clusterId))) ?_
    funext found
    cases found <;> rfl
  unfold Workers.scaleDown
  rw [htenant]
  refine congrArg (Program.bind (usableTenant? x)) ?_
  funext found
  cases found <;> rfl

/-- **How a pass in the stage of the removal ends, wherever it fails.** It leaves an old
worker stranded when it was struck, and has else done nothing or deleted the instances of all
old workers. -/
theorem safe_removal (now : Timestamp) (hw : Regular x s₀.world)
    (hstart : s₀.fault = none → s₀.removed = []) (hstage : InRemoval x s₀.world) :
    Safe (trials x) (steadfast x s₀) (fun _ s _ => Settled x s₀ s)
      (ensure (x.reread s₀.world) now) [] s₀ := by
  -- The stage is that of the pool as it is stored.
  have hsource : (stateOf (x.reread s₀.world).pool).stage WorkersStage = .scaleDown := by
    rw [pool_reread]
    exact hstage
  have hpass : Safe (trials x) (steadfast x s₀)
      (Ends (fun _ s _ => Settled x s₀ s) fun _ s => Settled x s₀ s)
      (ensure (x.reread s₀.world) now) [] s₀ := by
    show Safe _ _ _ (Program.bind (stage (x.reread s₀.world) (stateOf (x.reread s₀.world).pool)
      ((stateOf (x.reread s₀.world).pool).stage WorkersStage)) _) _ _
    rw [hsource]
    refine Safe.andThen (Q := fun _ s o => Concluded x s₀ o.transition.stage s) ?_ ?_
    · show Safe _ _ _ (keeping _ (Workers.scaleDown (x.reread s₀.world))) _ _
      rw [scaleDown_reread]
      refine (safe_scaleDown hw hstart hstage).andThen ?_
      exact fun asked s t halways h => Safe.pure halways h
    · intro asked s o halways h
      refine (safe_persist (K := fun _ s => Concluded x s₀ o.transition.stage s) x.settings now
        handler
        (StatusTarget.ofPool x.pool) _ o halways h trivial ?_ ?_).mono ?_
      · exact fun r s' turn => h.saved halways (stage_after _ _ _) turn
      · exact fun asked s event halways h => h.noted halways event
      · intro asked s r _ h
        cases r with
        | ok a => exact h.settled
        | error e => exact h.settled
  refine hpass.mono ?_
  intro asked s r _ h
  cases r with
  | ok a => exact h
  | error e => exact h

end TenantFleet.Workers
