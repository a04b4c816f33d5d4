/-
# A master that moves to the latest model is reimaged

Masters move to the latest model in two ways. The one that was stopped for its backup is updated in
one stage and reimaged in the next, unless that finds it running; each of the others is updated and
reimaged in one pass. Whatever fails, the way to the end leads past the reimage, and the masters
keep their order on it.

* `Named` : that the masters that a pass was told are those of the run;
* `issues_upgrade` : the calls of a pass that updates and reimages, in their order;
* `looked_of_run` : behind an update of the first master it was reimaged, or seen running;
* `reimaged_of_updated` : where each update of a run leads.
-/
import TenantFleet.Proofs.Masters.Freshness

namespace TenantFleet

open Program

/-- Whether a request leaves which instances there are, and their order. -/
def CloudCall.keepsIds : CloudCall → Bool
  | .putScaleSet _ _ | .deleteInstances _ _ | .putInstance _ _ _ => false
  | _ => true

/-- Whether a call moves an instance to the latest model. -/
def Call.updates (inst : String) : Call → Bool
  | .cloud _ _ (.updateInstances _ ids) => decide (inst ∈ ids)
  | _ => false

/-- Whether a call reimages an instance. -/
def Call.reimages (inst : String) : Call → Bool
  | .cloud _ _ (.reimage _ inst') => decide (inst' = inst)
  | _ => false

namespace Masters

variable {settings : PassSettings} {c c' : AzureConfig} {w w' w₀ : World} {now : Timestamp}
  {rounds earlier later : List (Round AzureConfig)} {asked trace before after : List Asked}
  {q : Program Nat} {r : Round AzureConfig} {call : Call} {u : Asked} {inst : String}
  {ids : List String} {t : Transition MastersStage}

/-! ## The masters of a run -/

/-- The IDs of the masters are those of the instances that are looked up. -/
theorem idsIn_eq (c : AzureConfig) (s : Subscription) :
    idsIn c s = ((s.instances.get? (scaleSetOf c)).map (List.map Instance.instanceId)).getD [] := by
  unfold idsIn Subscription.instancesOf Dict.getD
  cases s.instances.get? (scaleSetOf c) <;> rfl

/-- Such a request leaves the masters. -/
theorem idsIn_perform {s : Subscription} {group : String} {k : CloudCall} (hk : k.keepsIds = true) :
    idsIn c (s.perform group k).2 = idsIn c s := by
  cases k with
  | updateInstances scaleSet ids =>
    -- An update changes nothing but the model.
    have hids : ∀ l : List Instance,
        (l.map fun v => if v.instanceId ∈ ids then { v with latestModel := some true } else v).map
          Instance.instanceId = l.map Instance.instanceId := by
      intro l
      rw [List.map_map]
      refine List.map_congr_left fun v _ => ?_
      show Instance.instanceId (if _ then _ else _) = _
      split <;> rfl
    rw [idsIn_eq, idsIn_eq]
    exact congrArg (Option.getD · []) (Dict.map_get?_modify s.instances scaleSet _ hids)
  | putInstance scaleSet inst value => cases hk
  | putScaleSet name value => cases hk
  | deleteInstances scaleSet ids => cases hk
  | _ => rfl

/-- No stage makes another request. -/
theorem keepsIds_of_calls {source : MastersStage} {account : Account} {group : String}
    {k : CloudCall} (h : source.calls (.cloud account group k)) : k.keepsIds = true := by
  cases k with
  | putInstance scaleSet inst value => cases source <;> exact h.elim
  | putScaleSet name value => cases source <;> exact h.elim
  | deleteInstances scaleSet ids => cases source <;> exact h.elim
  | _ => rfl

/-- Whether the masters are those of the given IDs, and a pass was told no others. -/
structure Named (c c' : AzureConfig) (ids : List String) (asked : List Asked)
    (w : World) : Prop where
  same : idsIn c w.cluster = ids
  told : ∀ l, ⟨.cloud c'.group.account c'.group.name (.listInstances (scaleSetOf c')),
    .ok l⟩ ∈ asked → l.map Instance.instanceId = ids

/-- The masters stay with each call that leaves them. -/
theorem ids_of_turn {r : Except call.Failure call.Answer}
    (hcall : ∀ secret group k, call = .cloud (.cluster secret) group k → k.keepsIds = true)
    (turn : (backingUp c).answers call w r w') : idsIn c w'.cluster = idsIn c w.cluster := by
  by_cases hcluster : ∃ secret group k, call = .cloud (.cluster secret) group k
  · obtain ⟨secret, group, k, rfl⟩ := hcluster
    obtain ⟨s, hstill, ⟨rfl, -⟩ | ⟨hperform, -⟩⟩ := turn_cluster turn
    · exact hstill.ids
    · rw [hperform, idsIn_perform (hcall secret group k rfl)]
      exact hstill.ids
  · refine (still_of_turn (fun secret group k heq => ?_) turn).ids
    exact absurd ⟨secret, group, k, heq⟩ hcluster

/-- A pass leaves the masters, and is told those that are there. -/
theorem named_of_pass (hc : Reads c w c')
    (path : Path (backingUp c) (ensure settings now c') w asked q w') :
    Named c c' (idsIn c w.cluster) asked w' := by
  have hid : scaleSetOf c' = scaleSetOf c := congrArg Name.masterScaleSet hc.clusterId
  refine path.keeps (J := Named c c' (idsIn c w.cluster)) ⟨rfl, fun _ h => by cases h⟩
    (fun _ _ _ h => ⟨h.same, h.told⟩) ?_
  intro asked call r w₁ w₂ hissue h turn
  have hcall : ∀ secret group k, call = .cloud (.cluster secret) group k → k.keepsIds = true := by
    rintro secret group k rfl
    rcases issues_ensure hissue with hstage | ⟨values, hsave⟩
    · exact keepsIds_of_calls ((asks_stage settings c' (stateOf c') _).of_issues hstage)
    · cases hsave
  have hsame := (ids_of_turn hcall turn).trans h.same
  refine ⟨hsame, fun l hl => ?_⟩
  rcases List.mem_append.1 hl with hl | hl
  · exact h.told l hl
  · cases List.mem_singleton.1 hl
    rw [hid] at turn
    exact (instances_of_turn turn).trans hsame

/-- All passes of a run are told the same masters. -/
theorem named_of_run (hrun : Run (backingUp c) settings c w₀ rounds w) :
    idsIn c w.cluster = idsIn c w₀.cluster ∧ ∀ r ∈ rounds, ∀ l,
      ⟨.cloud r.given.group.account r.given.group.name (.listInstances (scaleSetOf r.given)),
        .ok l⟩ ∈ r.asked → l.map Instance.instanceId = idsIn c w₀.cluster := by
  induction hrun with
  | start => exact ⟨rfl, fun _ h => by cases h⟩
  | next before hp path ih =>
    obtain ⟨hc, now, rfl⟩ := hp
    have hnamed := named_of_pass hc path
    refine ⟨hnamed.same.trans ih.1, fun r hr l hl => ?_⟩
    rcases List.mem_append.1 hr with hr | hr
    · exact ih.2 r hr l hl
    · cases List.mem_singleton.1 hr
      exact (hnamed.told l hl).trans ih.1

/-! ## Updating and reimaging -/

/-- The request that moves an instance to the latest model. -/
abbrev updateOf (c : AzureConfig) (inst : String) : Call :=
  .cloud c.group.account c.group.name (.updateInstances (scaleSetOf c) [inst])

/-- The request that reimages an instance. -/
abbrev reimageOf (c : AzureConfig) (inst : String) : Call :=
  .cloud c.group.account c.group.name (.reimage (scaleSetOf c) inst)

/-- The wait for the end of an operation. -/
abbrev waitOf (c : AzureConfig) (operation : Operation) : Call :=
  .cloud c.group.account c.group.name (.wait operation)

/-- The listing of the masters. -/
abbrev listOf (c : AzureConfig) : Call :=
  .cloud c.group.account c.group.name (.listInstances (scaleSetOf c))

/-- An update is requested and waited for. -/
theorem issues_updateInstance (h : Issues (updateInstance c inst) trace call) :
    (trace = [] ∧ call = updateOf c inst) ∨
      ∃ operation, trace = [⟨updateOf c inst, .ok operation⟩] ∧ call = waitOf c operation := by
  rcases issues_bind.1 h with hupdate | ⟨operation, _, _, rfl, hupdate, hwait⟩
  · exact Or.inl (issues_groupCall.1 hupdate)
  · cases yields_groupCall.1 hupdate
    obtain ⟨rfl, rfl⟩ := issues_groupCall.1 hwait
    exact Or.inr ⟨operation, rfl, rfl⟩

theorem yields_updateInstance (h : Yields (updateInstance c inst) trace ()) :
    ∃ operation, trace = [⟨updateOf c inst, .ok operation⟩, ⟨waitOf c operation, .ok ()⟩] := by
  obtain ⟨operation, _, _, rfl, hupdate, hwait⟩ := yields_bind.1 h
  cases yields_groupCall.1 hupdate
  cases yields_groupCall.1 hwait
  exact ⟨operation, rfl⟩

/-- And so is a reimage. -/
theorem issues_reimageInstance (h : Issues (reimageInstance c inst) trace call) :
    (trace = [] ∧ call = reimageOf c inst) ∨
      ∃ operation, trace = [⟨reimageOf c inst, .ok operation⟩] ∧ call = waitOf c operation := by
  rcases issues_bind.1 h with hreimage | ⟨operation, _, _, rfl, hreimage, hwait⟩
  · exact Or.inl (issues_groupCall.1 hreimage)
  · cases yields_groupCall.1 hreimage
    obtain ⟨rfl, rfl⟩ := issues_groupCall.1 hwait
    exact Or.inr ⟨operation, rfl, rfl⟩

theorem yields_reimageInstance (h : Yields (reimageInstance c inst) trace ()) :
    ∃ operation, trace = [⟨reimageOf c inst, .ok operation⟩, ⟨waitOf c operation, .ok ()⟩] := by
  obtain ⟨operation, _, _, rfl, hreimage, hwait⟩ := yields_bind.1 h
  cases yields_groupCall.1 hreimage
  cases yields_groupCall.1 hwait
  exact ⟨operation, rfl⟩

/-- The calls of a pass that updates and reimages an instance, in their order. -/
theorem issues_upgrade (h : Issues (upgrade settings c) trace call) :
    (trace = [] ∧ call = listOf c) ∨ ∃ l v, l.find? (fun v => !v.latest) = some v ∧
      ((trace = [⟨listOf c, .ok l⟩] ∧ call = updateOf c v.instanceId) ∨
        (∃ operation, trace = [⟨listOf c, .ok l⟩, ⟨updateOf c v.instanceId, .ok operation⟩] ∧
          call = waitOf c operation) ∨
        (∃ operation, trace = [⟨listOf c, .ok l⟩, ⟨updateOf c v.instanceId, .ok operation⟩,
          ⟨waitOf c operation, .ok ()⟩] ∧ call = reimageOf c v.instanceId) ∨
        ∃ operation reimaged, trace = [⟨listOf c, .ok l⟩, ⟨updateOf c v.instanceId, .ok operation⟩,
          ⟨waitOf c operation, .ok ()⟩, ⟨reimageOf c v.instanceId, .ok reimaged⟩] ∧
          call = waitOf c reimaged) := by
  rcases issues_bind.1 h with hlist | ⟨l, _, _, rfl, hlist, hrest⟩
  · exact Or.inl (issues_groupCall.1 hlist)
  · cases yields_groupCall.1 hlist
    cases hfind : l.find? (fun v => !v.latest) with
    | none =>
      rw [hfind] at hrest
      exact absurd hrest not_issues_done
    | some v =>
      rw [hfind] at hrest
      refine Or.inr ⟨l, v, hfind, ?_⟩
      rcases issues_bind.1 hrest with hupdate | ⟨_, _, _, rfl, hupdate, hmore⟩
      · rcases issues_updateInstance hupdate with ⟨rfl, hcall⟩ | ⟨operation, rfl, hcall⟩
        · exact Or.inl ⟨rfl, hcall⟩
        · exact Or.inr (Or.inl ⟨operation, rfl, hcall⟩)
      · obtain ⟨operation, rfl⟩ := yields_updateInstance hupdate
        rcases issues_bind.1 hmore with hreimage | ⟨_, _, _, -, -, hend⟩
        · rcases issues_reimageInstance hreimage with ⟨rfl, hcall⟩ | ⟨reimaged, rfl, hcall⟩
          · exact Or.inr (Or.inr (Or.inl ⟨operation, rfl, hcall⟩))
          · exact Or.inr (Or.inr (Or.inr ⟨operation, reimaged, rfl, hcall⟩))
        · exact absurd hend not_issues_done

/-- Such a pass ends when nothing is left to update, or behind the reimage. -/
theorem yields_upgrade (h : Yields (upgrade settings c) trace t) :
    (∃ l, trace = [⟨listOf c, .ok l⟩]) ∨ ∃ l v operation reimaged,
      trace = [⟨listOf c, .ok l⟩, ⟨updateOf c v, .ok operation⟩, ⟨waitOf c operation, .ok ()⟩,
        ⟨reimageOf c v, .ok reimaged⟩, ⟨waitOf c reimaged, .ok ()⟩] := by
  obtain ⟨l, _, _, rfl, hlist, hrest⟩ := yields_bind.1 h
  cases yields_groupCall.1 hlist
  split at hrest
  · obtain ⟨rfl, -⟩ := yields_done.1 hrest
    exact Or.inl ⟨l, rfl⟩
  · rename_i v hfind
    obtain ⟨_, _, _, rfl, hupdate, hmore⟩ := yields_bind.1 hrest
    obtain ⟨operation, rfl⟩ := yields_updateInstance hupdate
    obtain ⟨_, _, _, rfl, hreimage, hend⟩ := yields_bind.1 hmore
    obtain ⟨reimaged, rfl⟩ := yields_reimageInstance hreimage
    obtain ⟨rfl, -⟩ := yields_done.1 hend
    exact Or.inr ⟨l, v.instanceId, operation, reimaged, rfl⟩

/-- The update is made of the first outdated instance of the listing. -/
theorem updates_upgrade (hu : call.updates inst = true)
    (h : Issues (upgrade settings c) trace call) :
    ∃ l v, l.find? (fun v => !v.latest) = some v ∧ v.instanceId = inst ∧
      trace = [⟨listOf c, .ok l⟩] ∧ call = updateOf c v.instanceId := by
  rcases issues_upgrade h with ⟨-, rfl⟩ | ⟨l, v, hfind, ⟨htrace, rfl⟩ | ⟨_, -, rfl⟩ | ⟨_, -, rfl⟩ |
    ⟨_, _, -, rfl⟩⟩
  · cases hu
  · exact ⟨l, v, hfind, (List.mem_singleton.1 (of_decide_eq_true hu)).symm, htrace, rfl⟩
  · cases hu
  · cases hu
  · cases hu

/-- Behind the update it is waited for, with the operation that the update was answered with. -/
theorem awaits_of_upgrade {a u : Asked} (h : Issues (upgrade settings c) [a, u] call) :
    ∃ inst operation, u = ⟨updateOf c inst, .ok operation⟩ ∧ call = waitOf c operation := by
  rcases issues_upgrade h with ⟨htrace, -⟩ | ⟨l, v, -, ⟨htrace, -⟩ | ⟨operation, htrace, rfl⟩ |
    ⟨_, htrace, -⟩ | ⟨_, _, htrace, -⟩⟩
  · cases htrace
  · cases htrace
  · cases htrace
    exact ⟨v.instanceId, operation, rfl, rfl⟩
  · cases htrace
  · cases htrace

/-- Behind the wait the same instance is reimaged. -/
theorem reimages_of_upgrade {a u x : Asked} (h : Issues (upgrade settings c) [a, u, x] call) :
    ∃ inst, u.call = updateOf c inst ∧ call = reimageOf c inst := by
  rcases issues_upgrade h with ⟨htrace, -⟩ | ⟨l, v, -, ⟨htrace, -⟩ | ⟨_, htrace, -⟩ |
    ⟨operation, htrace, rfl⟩ | ⟨_, _, htrace, -⟩⟩
  · cases htrace
  · cases htrace
  · cases htrace
  · cases htrace
    exact ⟨v.instanceId, rfl, rfl⟩
  · cases htrace

section Due

variable {l : List Instance} {v : Instance} {operation : Operation}
  (hfind : l.find? (fun v => !v.latest) = some v)
include hfind

/-- When an update was answered, its wait comes next. -/
theorem upgrade_awaits :
    Issues (upgrade settings c) [⟨listOf c, .ok l⟩, ⟨updateOf c v.instanceId, .ok operation⟩]
      (waitOf c operation) := by
  refine issues_bind.2 (Or.inr ⟨l, [_], _, rfl, yields_groupCall.2 rfl, ?_⟩)
  rw [hfind]
  refine issues_bind.2 (Or.inl (issues_bind.2 (Or.inr ?_)))
  exact ⟨operation, [_], [], rfl, yields_groupCall.2 rfl, issues_groupCall.2 ⟨rfl, rfl⟩⟩

/-- When the wait was answered too, the reimage comes next. -/
theorem upgrade_reimages :
    Issues (upgrade settings c) [⟨listOf c, .ok l⟩, ⟨updateOf c v.instanceId, .ok operation⟩,
      ⟨waitOf c operation, .ok ()⟩] (reimageOf c v.instanceId) := by
  refine issues_bind.2 (Or.inr ⟨l, [_], _, rfl, yields_groupCall.2 rfl, ?_⟩)
  rw [hfind]
  have hupdated : Yields (updateInstance c v.instanceId)
      [⟨updateOf c v.instanceId, .ok operation⟩, ⟨waitOf c operation, .ok ()⟩] () :=
    yields_bind.2 ⟨operation, [_], [_], rfl, yields_groupCall.2 rfl, yields_groupCall.2 rfl⟩
  refine issues_bind.2 (Or.inr ⟨(), _, [], (List.append_nil _).symm, hupdated, ?_⟩)
  exact issues_bind.2 (Or.inl (issues_bind.2 (Or.inl (issues_groupCall.2 ⟨rfl, rfl⟩))))

end Due

/-- The first master is the one that is updated behind its backup. -/
theorem updates_update (hu : call.updates inst = true) (h : Issues (update c) trace call) :
    ∃ v others, trace = [⟨listOf c, .ok (v :: others)⟩] ∧ v.instanceId = inst := by
  rcases issues_bind.1 h with hlist | ⟨v, _, _, rfl, hfirst, hrest⟩
  · rw [issues_firstInstance hlist] at hu
    cases hu
  · obtain ⟨others, rfl⟩ := yields_firstInstance.1 hfirst
    split at hrest
    · exact absurd hrest not_issues_done
    · rcases issues_bind.1 hrest with hupdate | ⟨_, _, _, -, -, hend⟩
      · rcases issues_updateInstance hupdate with ⟨rfl, rfl⟩ | ⟨operation, -, rfl⟩
        · exact ⟨v, others, rfl, (List.mem_singleton.1 (of_decide_eq_true hu)).symm⟩
        · cases hu
      · exact absurd hend not_issues_done

/-! ## Looking after the first master -/

/-- Whether a pass asked for an instance to be reimaged. -/
def AskedReimage (c : AzureConfig) (asked : List Asked) (inst : String) : Prop :=
  ∃ r, ⟨reimageOf c inst, r⟩ ∈ asked

/-- Whether a pass saw an instance running. -/
def SawRunning (c : AzureConfig) (asked : List Asked) (inst : String) : Prop :=
  ∃ view, ⟨.cloud c.group.account c.group.name (.instanceView (scaleSetOf c) inst),
    .ok view⟩ ∈ asked ∧ view.running = true

/-- Whether a pass reimaged the first master, unless it saw that running. -/
def LookedAfter (r : Round AzureConfig) : Prop :=
  ∃ v others, ⟨listOf r.given, .ok (v :: others)⟩ ∈ r.asked ∧
    (AskedReimage r.given r.asked v.instanceId ∨ SawRunning r.given r.asked v.instanceId)

/-- The stage that reimages the first master goes on when it did, or saw that running. -/
theorem advances_reimage (h : Yields (reimage settings r.given) trace t) (hsub : trace ⊆ r.asked)
    (ht : t.stage ≠ .reimageMaster) : LookedAfter r := by
  obtain ⟨v, _, after, rfl, hfirst, hrest⟩ := yields_bind.1 h
  obtain ⟨others, rfl⟩ := yields_firstInstance.1 hfirst
  split at hrest
  · obtain ⟨view, _, rest, rfl, hview, hlooked⟩ := yields_bind.1 hrest
    cases yields_groupCall.1 hview
    refine ⟨v, others, hsub List.mem_cons_self, ?_⟩
    split at hlooked
    · rename_i hrunning
      refine Or.inr ⟨view, hsub ?_, hrunning⟩
      exact List.mem_append_right _ (List.mem_append_left _ List.mem_cons_self)
    · obtain ⟨_, _, _, rfl, hreimage, -⟩ := yields_bind.1 hlooked
      obtain ⟨operation, rfl⟩ := yields_reimageInstance hreimage
      refine Or.inl ⟨.ok operation, hsub ?_⟩
      exact List.mem_append_right _ (List.mem_append_right _
        (List.mem_append_left _ List.mem_cons_self))
  · cases (yields_done.1 hrest).2
    exact absurd rfl ht

/-- Behind a pass that may have updated the first master, that is still to be looked after, or
was. -/
theorem looked_of_run (hrun : Run (backingUp c) settings c w₀ rounds w)
    (hrounds : rounds = earlier ++ r :: later) (hstage : r.stage = .updateMaster) :
    stageIn c w = .updateMaster ∨ stageIn c w = .reimageMaster ∨
      ∃ r' ∈ later, r'.stage = .reimageMaster ∧ LookedAfter r' := by
  induction hrun generalizing later with
  | start => exact absurd hrounds (by simp)
  | @next rounds w w' c' p q asked before hp path ih =>
    obtain ⟨hc, now, rfl⟩ := hp
    have hE := storing_backingUp c
    have hfollows := follows_of_pass hE hc path
    have hupdate : stageIn c w = .updateMaster →
        stageIn c w' = .updateMaster ∨ stageIn c w' = .reimageMaster := by
      intro hwas
      rw [hwas] at hfollows
      generalize stageIn c w' = target at hfollows
      cases target <;> first | exact Or.inl rfl | exact Or.inr rfl | cases hfollows
    rcases split_of_concat hrounds with ⟨-, rfl, -⟩ | ⟨later', rfl, hbefore⟩
    · exact (hupdate (hc.stage.symm.trans hstage)).imp_right Or.inl
    · rcases ih hbefore with hwas | hwas | ⟨r', hr', hlooked⟩
      · exact (hupdate hwas).imp_right Or.inl
      · by_cases hleft : stageIn c w' = .reimageMaster
        · exact Or.inr (Or.inl hleft)
        · obtain ⟨trace, target, values, res, t, hasked, hdone, ht⟩ :=
            left_of_pass hE hc path rfl hwas hleft
          have hlooked : LookedAfter ⟨c', asked⟩ := by
            refine advances_reimage hdone ?_ (by rw [ht]; exact hleft)
            rw [hasked]
            exact List.subset_append_left _ _
          have hreimage : Round.stage ⟨c', asked⟩ = .reimageMaster := hc.stage.trans hwas
          exact Or.inr (Or.inr ⟨_, List.mem_append_right _ List.mem_cons_self, hreimage, hlooked⟩)
      · exact Or.inr (Or.inr ⟨r', List.mem_append_left _ hr', hlooked⟩)

/-! ## Moving masters one at a time -/

/-- Whether the stage of a pass makes a call next. -/
def ComesTo (settings : PassSettings) (r : Round AzureConfig) (call : Call) : Prop :=
  Issues (stage settings r.given (stateOf r.given) r.stage) r.asked call

/-- How a pass may break off between the update of an instance and the reimage of it: a call fails,
or the pass is given up when the next one is due. Of the calls of the pass the update is one, and
some are behind it. -/
inductive BrokenOff (settings : PassSettings) (r : Round AzureConfig) (inst : String) :
    Asked → List Asked → Prop
  /-- The update failed. -/
  | notUpdated (e : AzureError) : BrokenOff settings r inst ⟨updateOf r.given inst, .error e⟩ []
  /-- The pass was given up before the wait. -/
  | beforeWait {operation : Operation} (hnext : ComesTo settings r (waitOf r.given operation)) :
      BrokenOff settings r inst ⟨updateOf r.given inst, .ok operation⟩ []
  /-- The wait failed. -/
  | notAwaited {operation : Operation} (e : AzureError) :
      BrokenOff settings r inst ⟨updateOf r.given inst, .ok operation⟩
        [⟨waitOf r.given operation, .error e⟩]
  /-- The pass was given up before the reimage. -/
  | beforeReimage {operation : Operation} (hnext : ComesTo settings r (reimageOf r.given inst)) :
      BrokenOff settings r inst ⟨updateOf r.given inst, .ok operation⟩
        [⟨waitOf r.given operation, .ok ()⟩]

/-- What a pass of that stage has asked does not end its stage before the reimage. -/
theorem issues_of_moving {E : Surroundings World} (trace : List Asked)
    (hstage : r.stage = .masterInstancesUpgrading)
    (path : Path E (ensure settings now r.given) w (trace ++ u :: after) q w')
    (hshort : trace.length = 2 ∨ trace.length = 3) :
    Issues (upgrade settings r.given) trace u.call := by
  have hissue := issues_or_keeps (path.issues_of_append trace after)
  rw [show (stateOf r.given).stage MastersStage = .masterInstancesUpgrading from hstage] at hissue
  rcases hissue with hissue | ⟨o, hdone, -⟩
  · exact issues_keeping hissue
  · rcases yields_upgrade (yields_keeping.1 hdone).2 with ⟨l, rfl⟩ |
      ⟨l, v, operation, reimaged, rfl⟩
    · rcases hshort with h | h <;> cases h
    · rcases hshort with h | h <;> cases h

/-- A pass that moves an instance reimages it behind the update, or breaks off before that and saves
nothing. -/
theorem reimaged_or_brokenOff {E : Surroundings World}
    (hstage : r.stage = .masterInstancesUpgrading)
    (path : Path E (ensure settings now r.given) w r.asked q w')
    (hasked : r.asked = before ++ u :: after)
    (hissue : Issues (upgrade settings r.given) before u.call) (hu : u.call.updates inst = true) :
    AskedReimage r.given after inst ∨
      BrokenOff settings r inst u after ∧ ∀ a ∈ r.asked, a.call.keepsStatus := by
  obtain ⟨l, v, hfind, rfl, rfl, hcall⟩ := updates_upgrade hu hissue
  have hcomes : ∀ {call}, Issues (upgrade settings r.given) r.asked call →
      ComesTo settings r call := by
    intro call hnext
    unfold ComesTo
    rw [hstage]
    exact issues_bind.2 (Or.inl hnext)
  rw [hasked] at path
  match after, path with
  | [], _ =>
    obtain ⟨call, res⟩ := u
    cases hcall
    refine Or.inr ⟨?_, by rw [hasked]; simp [Call.keepsStatus]⟩
    cases res with
    | error e => exact .notUpdated e
    | ok operation =>
      refine .beforeWait (hcomes ?_)
      rw [hasked]
      exact upgrade_awaits hfind
  | [x], path =>
    have hnext := issues_of_moving [_, u] hstage path (Or.inl rfl)
    obtain ⟨inst, operation, rfl, hwait⟩ := awaits_of_upgrade hnext
    cases hcall
    obtain ⟨call, res⟩ := x
    cases hwait
    refine Or.inr ⟨?_, by rw [hasked]; simp [Call.keepsStatus]⟩
    cases res with
    | error e => exact .notAwaited e
    | ok _ =>
      refine .beforeReimage (hcomes ?_)
      rw [hasked]
      exact upgrade_reimages hfind
  | x :: y :: rest, path =>
    have hnext := issues_of_moving [_, u, x] hstage path (Or.inr rfl)
    obtain ⟨inst, hupdate, hreimage⟩ := reimages_of_upgrade hnext
    obtain ⟨call, res⟩ := y
    cases hreimage
    cases hcall.symm.trans hupdate
    exact Or.inl ⟨res, List.mem_cons_of_mem _ List.mem_cons_self⟩

/-! ## Where each update leads -/

/-- Only two stages move masters to the latest model. -/
theorem stage_of_updates {source : MastersStage} (h : source.calls call)
    (hu : call.updates inst = true) :
    source = .updateMaster ∨ source = .masterInstancesUpgrading := by
  cases call with
  | cloud account group k =>
    cases k with
    | updateInstances scaleSet ids =>
      cases source <;> first | exact Or.inl rfl | exact Or.inr rfl | exact h.elim
    | _ => cases hu
  | _ => cases hu

/-- **A master that moves to the latest model is reimaged.** When a run has come to wait for the
masters, or to their completion, an instance that a pass moved to the latest model was the first
master behind its backup, and a later pass has reimaged it, unless it saw it running; or it was one
of those that are moved one at a time, and the same pass has reimaged it behind the update, unless
that or its wait failed or the pass was given up at these calls, and saved nothing. -/
theorem reimaged_of_updated (hrun : Run (backingUp c) settings c w₀ (earlier ++ r :: later) w)
    (hcompleted : stageIn c w = .waitForMastersToBecomeReady ∨ stageIn c w = .deploymentCompleted)
    (hasked : r.asked = before ++ u :: after) (hu : u.call.updates inst = true) :
    (r.stage = .updateMaster ∧ ∃ r' ∈ later, r'.stage = .reimageMaster ∧
        (AskedReimage r'.given r'.asked inst ∨ SawRunning r'.given r'.asked inst)) ∨
      (r.stage = .masterInstancesUpgrading ∧
        (AskedReimage r.given after inst ∨
          BrokenOff settings r inst u after ∧ ∀ a ∈ r.asked, a.call.keepsStatus)) := by
  obtain ⟨w₁, p, q, w₂, -, ⟨hc, now, rfl⟩, path⟩ := hrun.exists_pass
  have hissue : Issues (stage settings r.given (stateOf r.given) r.stage) before u.call := by
    rw [hasked] at path
    rcases issues_ensure (path.issues_of_append before after) with hstage | ⟨values, hsave⟩
    · exact hstage
    · rw [hsave] at hu
      cases hu
  rcases stage_of_updates ((asks_stage settings r.given _ _).of_issues hissue) hu with hstage |
    hstage
  · refine Or.inl ⟨hstage, ?_⟩
    rw [hstage] at hissue
    obtain ⟨v, others, rfl, rfl⟩ := updates_update hu (issues_keeping hissue)
    rcases looked_of_run hrun rfl hstage with hnot | hnot |
      ⟨r', hr', hreimage, v', others', hlist, hlooked⟩
    · rcases hcompleted with h | h <;> cases hnot.symm.trans h
    · rcases hcompleted with h | h <;> cases hnot.symm.trans h
    · -- Both passes were told the same masters.
      have hnamed := (named_of_run hrun).2
      have hfirst := hnamed r (List.mem_append_right _ List.mem_cons_self) (v :: others) (by
        rw [hasked]
        exact List.mem_append_left _ List.mem_cons_self)
      have hsecond := hnamed r' (List.mem_append_right _ (List.mem_cons_of_mem _ hr')) _ hlist
      obtain ⟨hsame, -⟩ := List.cons.inj (hfirst.trans hsecond.symm)
      rw [hsame]
      exact ⟨r', hr', hreimage, hlooked⟩
  · rw [hstage] at hissue
    exact Or.inr ⟨hstage, reimaged_or_brokenOff hstage path hasked (issues_keeping hissue) hu⟩

/-- The world of two masters, of which the second one runs an older model, where a run goes on with
moving masters one at a time. -/
def laggingWorld : World :=
  { soundWorld with
    cluster := { soundWorld.cluster with
      instances := soundWorld.cluster.instances.modify (scaleSetOf smallConfig) fun l =>
        l.flatMap fun v => [{ v with latestModel := some true }, { v with instanceId := "1" }] }
    saves := [⟨StatusTarget.ofConfig smallConfig, handler,
      Dict.empty.insert HandlerState.stageKey (Stage.name MastersStage.masterInstancesUpgrading)⟩] }

/-- Two passes over the two masters, in which nothing fails. -/
def upgrading : List (Round AzureConfig) × World :=
  play smallSettings smallConfig (List.replicate 2 World.handler) [] laggingWorld

/-- A call of a run that moves an instance, with what was asked before and behind it. -/
theorem exists_update (rounds : List (Round AzureConfig)) (inst : String)
    (h : rounds.any (fun r => r.asked.any fun a => a.call.updates inst) = true) :
    ∃ earlier r later before u after, rounds = earlier ++ r :: later ∧
      r.asked = before ++ u :: after ∧ u.call.updates inst = true := by
  obtain ⟨r, hr, hround⟩ := List.any_eq_true.1 h
  obtain ⟨u, hmem, hu⟩ := List.any_eq_true.1 hround
  obtain ⟨earlier, later, hsplit⟩ := List.append_of_mem hr
  obtain ⟨before, after, hasked⟩ := List.append_of_mem hmem
  exact ⟨earlier, r, later, before, u, after, hsplit, hasked, hu⟩

/-- The eleventh pass over an old master moves it to the latest model, and the twelfth one reimages
it. Of two masters the second one, of an older model, is moved and reimaged in one pass. -/
theorem reimaged_of_updated_sound :
    (∃ earlier r later before u after, (replacing soundWorld 14).1 = earlier ++ r :: later ∧
      r.asked = before ++ u :: after ∧ u.call.updates "0" = true ∧ r.stage = .updateMaster ∧
      ∃ r' ∈ later, r'.stage = .reimageMaster ∧
        (AskedReimage r'.given r'.asked "0" ∨ SawRunning r'.given r'.asked "0")) ∧
    ∃ earlier r later before u after, upgrading.1 = earlier ++ r :: later ∧
      r.asked = before ++ u :: after ∧ u.call.updates "1" = true ∧
      r.stage = .masterInstancesUpgrading ∧ AskedReimage r.given after "1" := by
  constructor
  · have hrun := run_replacing answers_drain rfl soundWorld 14
    have hcompleted : stageIn smallConfig (replacing soundWorld 14).2 = .deploymentCompleted := by
      decide +kernel
    -- No pass is in the stage that moves masters one at a time.
    have hstages : ∀ r ∈ (replacing soundWorld 14).1, r.stage ≠ .masterInstancesUpgrading := by
      decide +kernel
    obtain ⟨earlier, r, later, before, u, after, hsplit, hasked, hu⟩ :=
      exists_update (replacing soundWorld 14).1 "0" (by decide +kernel)
    have hr : r ∈ (replacing soundWorld 14).1 := by
      rw [hsplit]
      exact List.mem_append_right _ List.mem_cons_self
    rw [hsplit] at hrun
    rcases reimaged_of_updated hrun (Or.inr hcompleted) hasked hu with ⟨hstage, hlater⟩ |
      ⟨hstage, -⟩
    · exact ⟨earlier, r, later, before, u, after, hsplit, hasked, hu, hstage, hlater⟩
    · exact absurd hstage (hstages r hr)
  · have hrun : Run (backingUp smallConfig) smallSettings smallConfig laggingWorld upgrading.1
        upgrading.2 := by
      refine run_play (fun h hh => ?_) .start
      cases List.eq_of_mem_replicate hh
      exact ⟨fun call w => ⟨w, ⟨rfl, .refl _ _⟩, .answered⟩, rfl⟩
    have hcompleted : stageIn smallConfig upgrading.2 = .waitForMastersToBecomeReady := by
      decide +kernel
    have hstages : ∀ r ∈ upgrading.1, r.stage ≠ .updateMaster := by decide +kernel
    -- Every pass has come to its write.
    have hsaved : ∀ r ∈ upgrading.1, ¬ ∀ a ∈ r.asked, a.call.keepsStatus := by decide +kernel
    obtain ⟨earlier, r, later, before, u, after, hsplit, hasked, hu⟩ :=
      exists_update upgrading.1 "1" (by decide +kernel)
    have hr : r ∈ upgrading.1 := by
      rw [hsplit]
      exact List.mem_append_right _ List.mem_cons_self
    rw [hsplit] at hrun
    rcases reimaged_of_updated hrun (Or.inl hcompleted) hasked hu with
      ⟨hstage, -⟩ | ⟨hstage, hreimaged | ⟨-, hkept⟩⟩
    · exact absurd hstage (hstages r hr)
    · exact ⟨earlier, r, later, before, u, after, hsplit, hasked, hu, hstage, hreimaged⟩
    · exact absurd hkept (hsaved r hr)

/-- The world of a master that runs an older model, where a run goes on behind the backup. -/
def runningWorld : World :=
  { soundWorld with saves := [⟨StatusTarget.ofConfig smallConfig, handler,
      Dict.empty.insert HandlerState.stageKey (Stage.name MastersStage.updateMaster)⟩] }

/-- Four passes over the running master, in which nothing fails. -/
def completing : List (Round AzureConfig) × World :=
  play smallSettings smallConfig (List.replicate 4 World.handler) [] runningWorld

/-- A master that runs when it is to be reimaged is left as it is. -/
theorem not_reimaged_of_updated :
    ¬ ∀ (settings : PassSettings) (c : AzureConfig) (w₀ w : World)
      (earlier later : List (Round AzureConfig)) (r : Round AzureConfig) (before after : List Asked)
      (u : Asked) (inst : String),
      Run World.handler.faulty settings c w₀ (earlier ++ r :: later) w →
      (stageIn c w = .waitForMastersToBecomeReady ∨ stageIn c w = .deploymentCompleted) →
      r.asked = before ++ u :: after → u.call.updates inst = true → u.result.isOk = true →
      (∃ a ∈ after, a.call.reimages inst = true) ∨
        ∃ r' ∈ later, ∃ a ∈ r'.asked, a.call.reimages inst = true := by
  intro hclaim
  have hrun : Run World.handler.faulty smallSettings smallConfig runningWorld completing.1
      completing.2 := by
    refine run_play (fun h hh => ?_) .start
    cases List.eq_of_mem_replicate hh
    exact ⟨fun call w => .answered, rfl⟩
  have hcompleted : stageIn smallConfig completing.2 = .deploymentCompleted := by decide +kernel
  have hupdated : completing.1.any (fun r =>
      r.asked.any fun a => a.call.updates "0" && a.result.isOk) = true := by decide +kernel
  have hnone : ∀ r ∈ completing.1, ∀ a ∈ r.asked, a.call.reimages "0" ≠ true := by decide +kernel
  obtain ⟨r, hr, hround⟩ := List.any_eq_true.1 hupdated
  obtain ⟨u, hmem, hu⟩ := List.any_eq_true.1 hround
  obtain ⟨hupdates, hok⟩ := Bool.and_eq_true_iff.1 hu
  obtain ⟨earlier, later, hsplit⟩ := List.append_of_mem hr
  obtain ⟨before, after, hasked⟩ := List.append_of_mem hmem
  rw [hsplit] at hrun
  rcases hclaim _ _ _ _ earlier later r before after u "0" hrun (Or.inr hcompleted) hasked
    hupdates hok with
    ⟨a, ha, hreimages⟩ | ⟨r', hr', a, ha, hreimages⟩
  · refine hnone r hr a ?_ hreimages
    rw [hasked]
    exact List.mem_append_right _ (List.mem_cons_of_mem _ ha)
  · refine hnone r' ?_ a ha hreimages
    rw [hsplit]
    exact List.mem_append_right _ (List.mem_cons_of_mem _ hr')

end Masters

end TenantFleet
