/-
# Resuming a removal that was given up

A pass finds the old instances through their nodes. So once a pass has removed nodes and was given
up before their instances were deleted, the passes after it do not find these, go on without them,
and they stay.

* `Resumed` : passes over a pool that is read again for each of them;
* `Remains` : that the instance of a worker is still in the scale set;
* `removal_resumed_iff` : which failures leave an old instance behind.
-/
import TenantFleet.Proofs.Workers.Removal

namespace TenantFleet.Workers

open Program

variable {x : Scope} {w : World} {s₀ s s' : Trial}

/-! ## Resuming -/

/-- Passes over a pool that is read again for each of them, as long as it is stored in the stage of
the removal. -/
inductive Resumed (x : Scope) : Trial → Trial → Prop
  /-- No pass. -/
  | stop (s : Trial) : Resumed x s s
  /-- A pass to its end, and those that follow. -/
  | pass {s s₁ s' : Trial} {now : Timestamp} {trace : List Asked} {r : Except Error Nat}
      (hstage : InRemoval x s.world)
      (path : Path (trials x) (ensure (x.reread s.world) now) s trace (done r) s₁)
      (later : Resumed x s₁ s') : Resumed x s s'

/-- Whether the instance of a worker is still in the scale set: it is there and was never deleted.
One that was made later may have the same ID. -/
def Remains (x : Scope) (s : Trial) (v : Worker) : Prop :=
  v.inst ∈ x.instances s.world ∧ v.inst.instanceId ∉ s.removed

/-- What a pass in the stage of the removal leaves. -/
theorem removal_ends {now : Timestamp} {trace : List Asked} {r : Except Error Nat}
    (hw : Regular x s₀.world) (hstart : s₀.fault = none → s₀.removed = [])
    (hstage : InRemoval x s₀.world)
    (path : Path (trials x) (ensure (x.reread s₀.world) now) s₀ trace (done r) s) :
    Steadfast x s₀ s ∧ Settled x s₀ s :=
  (safe_removal now hw hstart hstage).along path

/-- An instance that has lost its node stays for good once a call has failed. -/
theorem Resumed.remains {f : Fault} {v : Worker} (later : Resumed x s s') (hw : Regular x s.world)
    (hfault : s.fault = some f)
    (hnode : s.world.nodes.get? (nodeName x.scaleSet v.inst.instanceId) = none)
    (hv : Remains x s v) : Remains x s' v := by
  induction later with
  | stop s => exact hv
  | pass hstage path later ih =>
    obtain ⟨h, -⟩ := removal_ends hw (fun hnone => by rw [hfault] at hnone; cases hnone) hstage path
    have hspared : v.inst.instanceId ∉ _ := fun hid => h.spared hid hv.2 hnode
    refine ih h.regular ?_ (h.nodes hnode) ⟨h.kept hv.1 hspared, hspared⟩
    rw [h.faulted (by simp [hfault]), hfault]

/-- Passes that start with the workers that there were end with all instances of the old
ones deleted. -/
theorem Resumed.cleared {f : Fault} (later : Resumed x s s') (hw : Regular x s.world)
    (hfault : s.fault = some f)
    (h : SamePool x w s.world ∧ InRemoval x s.world ∨ Cleared (workersIn x w).old s)
    (hleft : ¬InRemoval x s'.world) : Cleared (workersIn x w).old s' := by
  induction later with
  | stop s =>
    rcases h with ⟨-, hstage⟩ | h
    · exact absurd hstage hleft
    · exact h
  | @pass s s₁ s' now trace r hstage path later ih =>
    obtain ⟨halways, hend⟩ :=
      removal_ends hw (fun hnone => by rw [hfault] at hnone; cases hnone) hstage path
    have hnow : s₁.fault = some f := by rw [halways.faulted (by simp [hfault]), hfault]
    refine ih halways.regular hnow ?_ hleft
    rcases h with ⟨hpool, -⟩ | h
    · rcases hend.spared (not_struck_of_fault (hnow.trans hfault.symm)) with hfresh | hcleared
      · exact Or.inl ⟨hpool.trans hfresh.pool, hfresh.stage⟩
      · rw [hpool.workersIn_eq] at hcleared
        exact Or.inr hcleared
    · exact Or.inr fun v hv => halways.grown (h v hv)

/-- **Which failures leave an old instance behind.** When one call of a pass in the stage of the
removal has failed and the passes after it leave the stage, the instances that were old at first
have gone exactly when the failure is not one of their deletion, or of that of a node other than
the first. -/
theorem removal_resumed_iff {now : Timestamp} {trace : List Asked} {r : Except Error Nat}
    {f : Fault} (hw : Regular x w) (hstage : InRemoval x w)
    (path : Path (trials x) (ensure (x.reread w) now) { world := w } trace (done r) s)
    (hf : s.fault = some f) (later : Resumed x s s') (hleft : ¬InRemoval x s'.world) :
    (∀ v ∈ (workersIn x w).old, ¬Remains x s' v) ↔ ¬Strands (workersIn x w).old f := by
  have hbegin : Regular x (Trial.mk w [] none).world := hw
  obtain ⟨halways, hend⟩ := removal_ends hbegin (fun _ => rfl) hstage path
  constructor
  · -- A stranded worker stays: no later pass finds it.
    intro hgone hstrands
    obtain ⟨v, hv, hnode, hremaining⟩ := hend.struck ⟨rfl, f, hf, hstrands⟩
    obtain ⟨hinst, hname, -⟩ := old_worker hw hv
    rw [hname] at hnode
    exact hgone v hv (later.remains halways.regular hf hnode
      ⟨halways.kept hinst hremaining, hremaining⟩)
  · intro hstrands v hv hremains
    have hspared : ¬Struck x { world := w } s := by
      rintro ⟨-, f', hf', h⟩
      rw [hf] at hf'
      cases hf'
      exact hstrands h
    have hcleared := later.cleared halways.regular hf
      ((hend.spared hspared).imp (fun h => ⟨h.pool, h.stage⟩) fun h => h) hleft
    exact hremains.2 (hcleared v hv)

/-! ## A removal that was given up -/

/-- A world where the first call fails that a rule has a failure for. -/
def tripping (x : Scope) (rule : (c : Call) → Option c.Failure) : Handler Trial where
  answer c s :=
    match s.fault, rule c with
    | none, some e => (.error e, { s with fault := some ⟨c, e⟩ })
    | _, _ =>
      ((World.answer c s.world).1, { s with
        world := (World.answer c s.world).2
        removed := removedBy x c (World.answer c s.world).1 s.removed })
  note := (trials x).note

/-- The call of a rule is the one that fails. -/
theorem answers_tripping (x : Scope) (rule : (c : Call) → Option c.Failure) (c : Call) (s : Trial) :
    (trials x).answers c s ((tripping x rule).answer c s).1 ((tripping x rule).answer c s).2 := by
  unfold tripping
  dsimp only
  split
  · rename_i e hs _
    exact Or.inl ⟨hs, e, rfl, rfl⟩
  · exact Or.inr ⟨rfl, rfl⟩

/-- A world with the workers of the pool, all of them ready. -/
def keptWorld : World where
  cluster := {
    id := "sub-tenant"
    scaleSets := Dict.empty.insert keptScope.scaleSet keptScaleSet
    instances := Dict.empty.insert keptScope.scaleSet keptInstances }
  nodes := Partition.byName (keptNodes true)
  clusters := Table.put .empty "default" "abc12" { metadata := {} }
  template := .null

/-- A pass that fails by a rule, and what it leaves. -/
def abandoned (rule : (c : Call) → Option c.Failure) : Except Error Nat × Trial :=
  run (tripping keptScope rule) (ensure (keptScope.reread keptWorld) ⟨0, 0⟩) { world := keptWorld }

/-- The pass after it. -/
def resumed (rule : (c : Call) → Option c.Failure) : Except Error Nat × Trial :=
  run (tripping keptScope rule) (ensure (keptScope.reread (abandoned rule).2.world) ⟨0, 0⟩)
    (abandoned rule).2

/-- The deletion of instances fails. -/
def keepInstances : (c : Call) → Option c.Failure
  | .cloud _ _ (.deleteInstances name _) => some (.ofStatus 500 name)
  | _ => none

/-- The wait after a change fails. -/
def loseOperation : (c : Call) → Option c.Failure
  | .cloud _ _ (.wait operation) => some (.ofStatus 500 operation.description)
  | _ => none

/-- The world of the pool has nothing amiss, and the pool is in the stage of the removal. -/
theorem regular_keptWorld : Regular keptScope keptWorld ∧ InRemoval keptScope keptWorld :=
  ⟨⟨fun h => (Partition.mem_of_byName h).2, rfl, rfl⟩, by decide +kernel⟩

/-- A pass that fails by a rule, and one after it. -/
theorem path_abandoned (rule : (c : Call) → Option c.Failure)
    (hstage : InRemoval keptScope (abandoned rule).2.world) :
    (∃ trace, Path (trials keptScope) (ensure (keptScope.reread keptWorld) ⟨0, 0⟩)
      { world := keptWorld } trace
      (done (abandoned rule).1) (abandoned rule).2) ∧
      Resumed keptScope (abandoned rule).2 (resumed rule).2 := by
  obtain ⟨trace, path⟩ := path_run (answers_tripping keptScope rule) rfl
    (ensure (keptScope.reread (abandoned rule).2.world) ⟨0, 0⟩) (abandoned rule).2
  exact ⟨path_run (answers_tripping keptScope rule) rfl _ _, .pass hstage path (.stop _)⟩

/-- An old instance can stay in the scale set when its deletion fails once. -/
theorem not_removal_resumed :
    ¬ ∀ (x : Scope) (w : World) (now : Timestamp) (trace : List Asked) (r : Except Error Nat)
      (s s' : Trial),
      Regular x w → InRemoval x w →
      Path (trials x) (ensure (x.reread w) now) { world := w } trace (done r) s →
        s.fault.isSome = true →
      Resumed x s s' → ¬InRemoval x s'.world → ∀ v ∈ (workersIn x w).old, ¬Remains x s' v := by
  intro hall
  obtain ⟨hw, hstage⟩ := regular_keptWorld
  obtain ⟨⟨trace, path⟩, later⟩ := path_abandoned keepInstances (by decide +kernel)
  have h := hall keptScope keptWorld _ trace _ _ _ hw hstage path (by decide +kernel) later
    (by decide +kernel)
  have hremains :
      ∃ v ∈ (workersIn keptScope keptWorld).old,
        v.inst ∈ keptScope.instances (resumed keepInstances).2.world ∧
      v.inst.instanceId ∉ (resumed keepInstances).2.removed := by decide +kernel
  obtain ⟨v, hv, hremains⟩ := hremains
  exact h v hv hremains

/-- The old instance of the pool has gone when only the wait for its deletion failed. -/
theorem removal_resumed_kept :
    Regular keptScope keptWorld ∧ InRemoval keptScope keptWorld ∧
      (workersIn keptScope keptWorld).old.length = 1 ∧
      ∃ trace f,
        Path (trials keptScope) (ensure (keptScope.reread keptWorld) ⟨0, 0⟩)
          { world := keptWorld } trace
          (done (abandoned loseOperation).1) (abandoned loseOperation).2 ∧
        (abandoned loseOperation).2.fault = some f ∧
        Resumed keptScope (abandoned loseOperation).2 (resumed loseOperation).2 ∧
        ¬InRemoval keptScope (resumed loseOperation).2.world ∧
        ((∀ v ∈ (workersIn keptScope keptWorld).old,
          ¬Remains keptScope (resumed loseOperation).2 v) ↔
          ¬Strands (workersIn keptScope keptWorld).old f) := by
  obtain ⟨hw, hstage⟩ := regular_keptWorld
  obtain ⟨⟨trace, path⟩, later⟩ := path_abandoned loseOperation (by decide +kernel)
  have hfailed : (abandoned loseOperation).2.fault.isSome = true := by decide +kernel
  obtain ⟨f, hf⟩ := Option.isSome_iff_exists.1 hfailed
  have hleft : ¬InRemoval keptScope (resumed loseOperation).2.world := by decide +kernel
  refine ⟨hw, hstage, by decide +kernel, trace, f, path, hf, later, hleft, ?_⟩
  exact removal_resumed_iff hw hstage path hf later hleft

end TenantFleet.Workers
