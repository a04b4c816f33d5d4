/-
# Drain requests of the masters

Only the passes request and withdraw drains, and a drainer does no more than to answer in the
conditions of a request. All other collaborators may do and answer whatever they like.

* `besideDrainer` : the surroundings of a machine whose requests a drainer answers;
* `ours_of_pass` : the requests stay those of the machine;
* `requested_of_pass` : a request that was accepted is there at the end of the pass;
* `awaiting_of_pass` : a request is withdrawn only when it was seen to have come to an end.
-/
import TenantFleet.Proofs.Data.Dict
import TenantFleet.Proofs.Masters.Backup
import TenantFleet.Proofs.Masters.Run
import TenantFleet.Proofs.World.Answer

namespace TenantFleet

open Program

/-! ## The surroundings -/

/-- A drain request without what the drainer answered. -/
def DrainerConfig.unanswered (d : DrainerConfig) : DrainerConfig := { d with conditions := none }

/-- Whether two worlds have the same drain requests but for what the drainer answered. -/
def SameDrains (w w' : World) : Prop :=
  ∀ space name, (Table.at? w'.drains space name).map DrainerConfig.unanswered =
    (Table.at? w.drains space name).map DrainerConfig.unanswered

/-- What others may do to a world: whatever they like, but for the writes of the passes, and for the
drain requests, which a drainer may answer. -/
structure Others (w w' : World) : Prop where
  saves : w'.saves = w.saves
  drains : SameDrains w w'

/-- Whether a call is about the writes of the passes or about the drain requests. -/
def Call.isGuarded : Call → Bool
  | .saveStatus _ _ _ | .createDrain _ | .listDrains _ _ | .deleteDrain _ _ => true
  | _ => false

/-- Whether a refused request to drain a node says that it exists only when it does. -/
def Call.Honest : (c : Call) → Except c.Failure c.Answer → World → Prop
  | .createDrain d, .error e, w =>
    e.isAlreadyExists = true →
      (Table.at? w.drains d.metadata.spaceName (d.metadata.name.getD "")).isSome = true
  | _, _, _ => True

/-- The surroundings of a machine whose requests a drainer answers: the calls about its writes and
its requests turn out as in a world in memory, where each may fail before or after its effect, and
all other calls turn out in any way. -/
def besideDrainer : Surroundings World where
  answers c w r w' :=
    if c.isGuarded then ∃ w₁, Others w w₁ ∧ World.handler.Turns c w₁ r w' ∧ c.Honest r w'
    else Others w w'
  note := World.handler.note

namespace SameDrains

variable {w w' w'' : World}

theorem refl (w : World) : SameDrains w w := fun _ _ => rfl

theorem of_eq (h : w'.drains = w.drains) : SameDrains w w' := by
  intro space name
  rw [h]

theorem trans (h : SameDrains w w') (h' : SameDrains w' w'') : SameDrains w w'' :=
  fun space name => (h' space name).trans (h space name)

/-- A request is there before when it is there after. -/
theorem before (h : SameDrains w w') {space name : String} {d' : DrainerConfig}
    (hd : Table.at? w'.drains space name = some d') :
    ∃ d, Table.at? w.drains space name = some d ∧ d'.unanswered = d.unanswered := by
  have hsame := h space name
  rw [hd, Option.map_some] at hsame
  obtain ⟨d, hd, heq⟩ := Option.map_eq_some_iff.1 hsame.symm
  exact ⟨d, hd, heq.symm⟩

/-- The same requests are there. -/
theorem isSome (h : SameDrains w w') (space name : String) :
    (Table.at? w'.drains space name).isSome = (Table.at? w.drains space name).isSome := by
  have hsame := congrArg Option.isSome (h space name)
  rwa [Option.isSome_map, Option.isSome_map] at hsame

end SameDrains

/-! ## Turns -/

section Turns

variable {w w' : World}

/-- How a guarded call turns out, in a world that others may have changed before. -/
theorem turn_guarded {c : Call} {r : Except c.Failure c.Answer} (hc : c.isGuarded = true)
    (turn : besideDrainer.answers c w r w') :
    c.Honest r w' ∧ ∃ w₁, Others w w₁ ∧
      ((w' = w₁ ∧ ∃ e, r = .error e) ∨
        (w' = (w₁.perform c).2 ∧ ((∃ e, r = .error e) ∨ r = (w₁.perform c).1))) := by
  replace turn : if c.isGuarded then
      ∃ w₁, Others w w₁ ∧ World.handler.Turns c w₁ r w' ∧ c.Honest r w' else Others w w' := turn
  rw [if_pos hc] at turn
  obtain ⟨w₁, hothers, turn, hhonest⟩ := turn
  refine ⟨hhonest, ?_⟩
  have hrecorded : Others w (w₁.record c) := ⟨hothers.saves, hothers.drains⟩
  have hanswer : World.handler.answer c w₁ = _ :=
    World.answer_eq w₁ (by rintro account group k rfl; cases hc)
  rcases turn.cases with ⟨rfl, rfl⟩ | ⟨⟨e, rfl⟩, rfl | rfl⟩
  · rw [hanswer]
    split
    · exact ⟨_, hrecorded, Or.inl ⟨rfl, _, rfl⟩⟩
    · exact ⟨_, hrecorded, Or.inr ⟨rfl, Or.inr rfl⟩⟩
  · exact ⟨_, hothers, Or.inl ⟨rfl, e, rfl⟩⟩
  · rw [hanswer]
    split
    · exact ⟨_, hrecorded, Or.inl ⟨rfl, e, rfl⟩⟩
    · exact ⟨_, hrecorded, Or.inr ⟨rfl, Or.inl ⟨e, rfl⟩⟩⟩

/-- What others do while a call of another kind is made. -/
theorem turn_unguarded {c : Call} {r : Except c.Failure c.Answer} (hc : ¬ c.isGuarded = true)
    (turn : besideDrainer.answers c w r w') : Others w w' := by
  replace turn : if c.isGuarded then
      ∃ w₁, Others w w₁ ∧ World.handler.Turns c w₁ r w' ∧ c.Honest r w' else Others w w' := turn
  rwa [if_neg hc] at turn

/-- Nothing is written but by the passes. -/
theorem storing_besideDrainer : Masters.Storing besideDrainer where
  others {c w r w'} turn hkeeps := by
    by_cases hc : c.isGuarded = true
    · obtain ⟨-, w₁, hothers, h⟩ := turn_guarded hc turn
      have hperform : (w₁.perform c).2.saves = w₁.saves := by
        refine w₁.saves_perform ?_
        rintro target handler values rfl
        exact hkeeps.elim
      rcases h with ⟨rfl, -⟩ | ⟨rfl, -⟩
      · exact hothers.saves
      · exact hperform.trans hothers.saves
    · exact (turn_unguarded hc turn).saves
  write {target handler values w r w'} turn := by
    obtain ⟨-, w₁, hothers, h⟩ := turn_guarded rfl turn
    rw [← hothers.saves]
    rcases h with ⟨rfl, -⟩ | ⟨rfl, -⟩
    · exact Or.inl rfl
    · exact Or.inr rfl
  note _ _ := rfl

/-- Writes, listings and calls of another kind leave the requests. -/
theorem sameDrains_of_turn {c : Call} {r : Except c.Failure c.Answer}
    (hcreate : ∀ d, c ≠ .createDrain d) (hdelete : ∀ space name, c ≠ .deleteDrain space name)
    (turn : besideDrainer.answers c w r w') : SameDrains w w' := by
  by_cases hc : c.isGuarded = true
  · obtain ⟨-, w₁, hothers, h⟩ := turn_guarded hc turn
    have hperform : (w₁.perform c).2.drains = w₁.drains := by
      cases c with
      | createDrain d => exact absurd rfl (hcreate d)
      | deleteDrain space name => exact absurd rfl (hdelete space name)
      | saveStatus target handler values => rfl
      | listDrains space clusterId => rfl
      | _ => cases hc
    rcases h with ⟨rfl, -⟩ | ⟨rfl, -⟩
    · exact hothers.drains
    · exact hothers.drains.trans (.of_eq hperform)
  · exact (turn_unguarded hc turn).drains

/-- A listing tells the requests with the label of the cluster. -/
theorem told_of_turn {space clusterId : String} {drains : List DrainerConfig}
    (turn : besideDrainer.answers (.listDrains space clusterId) w (.ok drains) w')
    {d : DrainerConfig} :
    d ∈ drains ↔ (∃ name, Table.at? w'.drains space name = some d) ∧
      World.drainsCluster clusterId d = true := by
  obtain ⟨-, w₁, -, h⟩ := turn_guarded rfl turn
  rcases h with ⟨-, e, h⟩ | ⟨rfl, ⟨e, h⟩ | h⟩
  · cases h
  · cases h
  · cases h
    show d ∈ List.filter _ _ ↔ _
    rw [List.mem_filter, Dict.mem_values]
    rfl

/-- A new request leaves the others, and is there when it was accepted. -/
theorem requested_of_turn {d : DrainerConfig} {r : Except TenantError DrainerConfig}
    (turn : besideDrainer.answers (.createDrain d) w r w') :
    (SameDrains w w' ∨ ∃ w₁, SameDrains w w₁ ∧
        w'.drains = Table.put w₁.drains d.metadata.spaceName (d.metadata.name.getD "") d) ∧
      (Masters.Accepted r →
        (Table.at? w'.drains d.metadata.spaceName (d.metadata.name.getD "")).isSome = true) := by
  obtain ⟨hhonest, w₁, hothers, h⟩ := turn_guarded rfl turn
  rcases h with ⟨rfl, e, rfl⟩ | ⟨rfl, -⟩
  · exact ⟨Or.inl hothers.drains, hhonest⟩
  · show (SameDrains w (w₁.createDrain d).2 ∨ ∃ w₁', SameDrains w w₁' ∧
      (w₁.createDrain d).2.drains = _) ∧
        (_ → (Table.at? (w₁.createDrain d).2.drains _ _).isSome = true)
    unfold World.createDrain
    dsimp only
    cases hat : Table.at? w₁.drains d.metadata.spaceName (d.metadata.name.getD "") with
    | some d₁ =>
      refine ⟨Or.inl hothers.drains, fun _ => ?_⟩
      dsimp only
      rw [hat]
      rfl
    | none =>
      refine ⟨Or.inr ⟨w₁, hothers.drains, rfl⟩, fun _ => ?_⟩
      dsimp only
      rw [Table.at?_put_self]
      rfl

/-- A withdrawal leaves the other requests. -/
theorem withdrawn_of_turn {space name : String} {r : Except TenantError Unit}
    (turn : besideDrainer.answers (.deleteDrain space name) w r w') :
    SameDrains w w' ∨ ∃ w₁, SameDrains w w₁ ∧ w'.drains = Table.remove w₁.drains space name := by
  obtain ⟨-, w₁, hothers, h⟩ := turn_guarded rfl turn
  rcases h with ⟨rfl, -⟩ | ⟨rfl, -⟩
  · exact Or.inl hothers.drains
  · simp only [World.perform, World.deleteDrain]
    split
    · exact Or.inr ⟨w₁, hothers.drains, rfl⟩
    · exact Or.inl hothers.drains

end Turns

/-! ## Worlds that others change -/

/-- A call that is not guarded leaves the writes and the requests. -/
theorem others_answer {c : Call} (hc : ¬ c.isGuarded = true) (w : World) :
    Others w (World.answer c w).2 := by
  have hsaves : (World.answer c w).2.saves = w.saves := by
    refine w.saves_answer ?_
    rintro target handler values rfl
    exact hc rfl
  refine ⟨hsaves, .of_eq ?_⟩
  rcases c.cloud_cases with ⟨account, group, k, rfl⟩ | hother
  · cases account <;> rfl
  · rw [World.answer_eq w hother]
    have hperform : ∀ w : World, (w.perform c).2.drains = w.drains := by
      intro w
      cases c with
      | cloud account group k => exact absurd rfl (hother account group k)
      | tenant space clusterId k =>
        cases k with
        | listNodes selector => rfl
        | cordonNode name =>
          simp only [World.perform, World.performTenant]
          split <;> rfl
        | deleteNode name =>
          simp only [World.perform, World.performTenant]
          split <;> rfl
      | findBundle clusterId cert =>
        simp only [World.perform]
        split <;> rfl
      | ensureCertConfig config =>
        simp only [World.perform, World.ensureCertConfig]
        split <;> rfl
      | createDrain _ | listDrains _ _ | deleteDrain _ _ | saveStatus _ _ _ => exact absurd rfl hc
      | _ => rfl
    split
    · rfl
    · exact hperform (w.record c)

/-- A request to drain a node is refused honestly when no failure was asked for. -/
theorem honest_answer {w : World} (hw : w.failures = .empty) (c : Call) :
    c.Honest (World.answer c w).1 (World.answer c w).2 := by
  cases c with
  | createDrain d =>
    rw [World.answer_of_steady hw (by rintro _ _ _ ⟨⟩)]
    simp only [World.perform, World.createDrain]
    split
    · rename_i d₁ hd₁
      intro _
      rw [hd₁]
      rfl
    · trivial
  | _ => trivial

/-- Such a world answers as its surroundings may, when others change no more than they may. -/
theorem answers_changing {change : World → World} (hothers : ∀ w, Others w (change w))
    (hcalm : ∀ w, (change w).failures = .empty) (loses : Bool) (c : Call) (w : World) :
    besideDrainer.answers c w ((World.changing change loses).answer c w).1
      ((World.changing change loses).answer c w).2 := by
  have hanswer : besideDrainer.answers c w (World.answer c (change w)).1
      (World.answer c (change w)).2 := by
    show if c.isGuarded then ∃ w₁, Others w w₁ ∧
        World.handler.Turns c w₁ (World.answer c (change w)).1
      (World.answer c (change w)).2 ∧ c.Honest _ _ else Others w (World.answer c (change w)).2
    split
    · exact ⟨change w, hothers w, .answered, honest_answer (hcalm w) c⟩
    · rename_i hc
      have hkept := others_answer hc (change w)
      exact ⟨hkept.saves.trans (hothers w).saves, (hothers w).drains.trans hkept.drains⟩
  cases c with
  | saveStatus target handler values =>
    cases loses with
    | true => exact ⟨w, ⟨rfl, .refl w⟩, .lost _, trivial⟩
    | false => exact hanswer
  | _ => exact hanswer

namespace Masters

variable {c c' : AzureConfig} {w w' : World} {settings : PassSettings} {now : Timestamp}
  {id node : String} {asked : List Asked} {q : Program Nat}

/-! ## The requests of a cluster -/

/-- Whether the drain requests of a cluster are those that its masters make. -/
def Ours (id : String) (w : World) : Prop :=
  ∀ name d, Table.at? w.drains id name = some d →
    d.nodeName = name ∧ d.metadata.anyName = name ∧ World.drainsCluster id d = true

/-- Whether there is a request to drain a node. -/
def Requested (id : String) (w : World) (node : String) : Prop :=
  (Table.at? w.drains id node).isSome = true

/-- What the drainer answers does not matter. -/
theorem Ours.of_same (h : Ours id w) (hsame : SameDrains w w') : Ours id w' := by
  intro name d' hd'
  obtain ⟨d, hd, heq⟩ := hsame.before hd'
  have hmetadata : d'.metadata = d.metadata :=
    show d'.unanswered.metadata = d.unanswered.metadata by rw [heq]
  have hnode : d'.nodeName = d.nodeName :=
    show d'.unanswered.nodeName = d.unanswered.nodeName by rw [heq]
  obtain ⟨hname, hany, hcluster⟩ := h name d hd
  unfold World.drainsCluster at hcluster ⊢
  rw [hmetadata, hnode]
  exact ⟨hname, hany, hcluster⟩

/-- A request that the masters make is theirs. -/
theorem Ours.put (h : Ours id w) (hid : c.clusterId = id) (n : Node)
    (hdrains : w'.drains = Table.put w.drains id n.name (drainRequest c n)) : Ours id w' := by
  intro name d hd
  rw [hdrains] at hd
  by_cases hname : n.name = name
  · subst hname
    rw [Table.at?_put_self] at hd
    cases hd
    refine ⟨rfl, rfl, ?_⟩
    unfold World.drainsCluster drainRequest Metadata.label?
    dsimp only
    rw [Option.bind_some, Dict.get?_insert_self, hid]
    exact decide_eq_true rfl
  · rw [Table.at?_put_of_ne _ _ fun heq => hname (Prod.mk.inj heq).2] at hd
    exact h name d hd

/-- Requests stay those of the masters at all moments of a pass. -/
theorem ours_of_turn {call : Call} {r : Except call.Failure call.Answer} (h : Ours id w)
    (hcall : ∀ d, call = .createDrain d → ∃ n, d = drainRequest c n) (hid : c.clusterId = id)
    (turn : besideDrainer.answers call w r w') : Ours id w' := by
  -- Only requests and withdrawals do more than a drainer may.
  by_cases hcreate : ∃ d, call = .createDrain d
  · obtain ⟨d, rfl⟩ := hcreate
    obtain ⟨n, rfl⟩ := hcall d rfl
    rcases (requested_of_turn turn).1 with hsame | ⟨w₁, hsame, hput⟩
    · exact h.of_same hsame
    · refine (h.of_same hsame).put hid n ?_
      rw [hput, ← hid]
      rfl
  by_cases hdelete : ∃ space name, call = .deleteDrain space name
  · obtain ⟨space, name, rfl⟩ := hdelete
    rcases withdrawn_of_turn turn with hsame | ⟨w₁, hsame, hremove⟩
    · exact h.of_same hsame
    · intro key d hd
      rw [hremove, Table.at?_remove] at hd
      exact (h.of_same hsame) key d hd.1
  · refine h.of_same (sameDrains_of_turn ?_ ?_ turn)
    · exact fun d heq => hcreate ⟨d, heq⟩
    · exact fun space name heq => hdelete ⟨space, name, heq⟩

/-- A request stays until it is withdrawn. -/
theorem requested_stays {call : Call} {r : Except call.Failure call.Answer}
    (h : Requested id w node)
    (hcall : call ≠ .deleteDrain id node) (turn : besideDrainer.answers call w r w') :
    Requested id w' node := by
  unfold Requested at h ⊢
  by_cases hcreate : ∃ d, call = .createDrain d
  · obtain ⟨d, rfl⟩ := hcreate
    rcases (requested_of_turn turn).1 with hsame | ⟨w₁, hsame, hput⟩
    · rwa [hsame.isSome]
    · rw [hput]
      rw [← hsame.isSome] at h
      by_cases hkey : (d.metadata.spaceName, d.metadata.name.getD "") = (id, node)
      · -- The same node is requested again.
        obtain ⟨rfl, rfl⟩ := Prod.mk.inj hkey
        rw [Table.at?_put_self]
        rfl
      · rwa [Table.at?_put_of_ne _ _ hkey]
  by_cases hdelete : ∃ space name, call = .deleteDrain space name
  · obtain ⟨space, name, rfl⟩ := hdelete
    rcases withdrawn_of_turn turn with hsame | ⟨w₁, hsame, hremove⟩
    · rwa [hsame.isSome]
    · rw [← hsame.isSome] at h
      obtain ⟨d, hd⟩ := Option.isSome_iff_exists.1 h
      have hother : ¬ (space = id ∧ name = node) := by
        rintro ⟨rfl, rfl⟩
        exact hcall rfl
      rw [hremove, Table.at?_remove.2 ⟨hd, hother⟩]
      rfl
  · rwa [(sameDrains_of_turn (fun d heq => hcreate ⟨d, heq⟩)
      (fun space name heq => hdelete ⟨space, name, heq⟩) turn).isSome]

/-! ## Passes -/

/-- Only the nodes of a cluster are asked to be drained. -/
theorem drainRequest_of_issues {d : DrainerConfig}
    (h : Issues (ensure settings now c) asked (.createDrain d)) : ∃ n, d = drainRequest c n := by
  rcases issues_ensure h with hstage | ⟨values, hcall⟩
  · generalize (stateOf c).stage MastersStage = source at hstage
    cases source with
    | backupEtcdDisk => exact (asks_keeping asks_drainRequest).of_issues hstage d rfl
    | _ => exact ((asks_stage settings c (stateOf c) _).of_issues hstage).elim
  · cases hcall

/-- The requests stay those of the masters. -/
theorem ours_of_pass (h : Ours id w) (hid : c'.clusterId = id)
    (path : Path besideDrainer (ensure settings now c') w asked q w') : Ours id w' := by
  refine path.keeps (J := fun _ w => Ours id w) h (fun _ _ _ h => h) ?_
  intro asked call r w w' hissue h turn
  refine ours_of_turn h ?_ hid turn
  rintro d rfl
  exact drainRequest_of_issues hissue

/-- A request that was accepted is there from then on, as long as requests are made. -/
theorem requested_of_pass (hid : c'.clusterId = id)
    (hstage : (stateOf c').stage MastersStage = .backupEtcdDisk)
    (path : Path besideDrainer (ensure settings now c') w asked q w') :
    ∀ (n : Node) r, ⟨.createDrain (drainRequest c' n), r⟩ ∈ asked → Accepted r →
      Requested id w' n.name := by
  refine path.keeps (J := fun asked w => ∀ (n : Node) r,
    ⟨.createDrain (drainRequest c' n), r⟩ ∈ asked → Accepted r → Requested id w n.name) ?_ ?_ ?_
  · exact fun _ _ h => by cases h
  · exact fun _ _ _ h => h
  · intro asked call r w w' hissue h turn n r' hmem haccepted
    rcases List.mem_append.1 hmem with hmem | hmem
    · refine requested_stays (h n r' hmem haccepted) ?_ turn
      rintro rfl
      rcases issues_ensure hissue with hstaged | ⟨values, hcall⟩
      · rw [hstage] at hstaged
        exact (asks_stage settings c' (stateOf c') _).of_issues hstaged
      · cases hcall
    · cases List.mem_singleton.1 hmem
      have hrequested := (requested_of_turn turn).2 haccepted
      rw [← hid]
      exact hrequested

/-- What holds while a pass waits for the drains that were requested when it began. -/
structure Awaiting (id : String) (w₀ : World) (asked : List Asked) (w : World) : Prop where
  /-- The requests are those of the masters. -/
  ours : Ours id w
  /-- A request is there as long as it was not seen to have come to an end. -/
  requested : ∀ node, Requested id w₀ node → Requested id w node ∨ SawDrained id node asked
  /-- The requests that were told are named like their nodes. -/
  named : ∀ drains, ToldDrains id asked drains → ∀ d ∈ drains, d.metadata.anyName = d.nodeName
  /-- They are all that were there. -/
  told : ∀ drains, ToldDrains id asked drains → ∀ node, Requested id w₀ node →
    (∃ d ∈ drains, d.nodeName = node) ∨ SawDrained id node asked

/-- What was seen stays seen. -/
theorem SawDrained.append (h : SawDrained id node asked) (more : List Asked) :
    SawDrained id node (asked ++ more) := by
  obtain ⟨drains, htold, h⟩ := h
  exact ⟨drains, List.mem_append_left _ htold, h⟩

/-- What a pass waits for stays so with each of its calls. -/
theorem Awaiting.turn {w₀ : World} {call : Call} {r : Except call.Failure call.Answer}
    (h : Awaiting id w₀ asked w) (hid : c'.clusterId = id)
    (hissue : Issues (awaitDrains settings c') asked call ∨
      ∃ target handler values, call = .saveStatus target handler values)
    (turn : besideDrainer.answers call w r w') : Awaiting id w₀ (asked ++ [⟨call, r⟩]) w' := by
  have hkind : ∀ d, call ≠ .createDrain d := by
    rintro d rfl
    rcases hissue with hissue | ⟨_, _, _, hcall⟩
    · exact asks_awaitDrains.of_issues hissue
    · cases hcall
  have hours : Ours id w' := ours_of_turn h.ours (fun d heq => absurd heq (hkind d)) hid turn
  -- What is told now is what is there now.
  have hnow : ∀ drains, ToldDrains id [⟨call, r⟩] drains → ∀ d, d ∈ drains ↔
      ∃ name, Table.at? w'.drains id name = some d := by
    intro drains htold d
    cases List.mem_singleton.1 htold
    rw [told_of_turn turn]
    constructor
    · exact fun h => h.1
    · rintro ⟨name, hd⟩
      exact ⟨⟨name, hd⟩, (hours name d hd).2.2⟩
  have hrequested : ∀ node, Requested id w₀ node →
      Requested id w' node ∨ SawDrained id node (asked ++ [⟨call, r⟩]) := by
    intro node hnode
    rcases h.requested node hnode with hthere | hsaw
    · by_cases hcall : call = .deleteDrain id node
      · -- It was told before that the request has come to an end.
        subst hcall
        rcases hissue with hissue | ⟨_, _, _, hcall⟩
        · obtain ⟨-, drains, htold, d, hd, hfinished, hname⟩ := withdraws hissue
          rw [hid] at htold
          refine Or.inr (SawDrained.append ⟨drains, htold, d, hd, ?_, hfinished⟩ _)
          rw [← h.named drains htold d hd, hname]
        · cases hcall
      · exact Or.inl (requested_stays hthere hcall turn)
    · exact Or.inr (hsaw.append _)
  refine ⟨hours, hrequested, ?_, ?_⟩
  · intro drains htold d hd
    rcases List.mem_append.1 htold with htold | htold
    · exact h.named drains htold d hd
    · obtain ⟨name, hname⟩ := (hnow drains htold d).1 hd
      obtain ⟨hnode, hany, -⟩ := hours name d hname
      rw [hany, hnode]
  · intro drains htold node hnode
    rcases List.mem_append.1 htold with htold | htold
    · rcases h.told drains htold node hnode with hd | hsaw
      · exact Or.inl hd
      · exact Or.inr (hsaw.append _)
    · rcases hrequested node hnode with hthere | hsaw
      · obtain ⟨d, hd⟩ := Option.isSome_iff_exists.1 hthere
        exact Or.inl ⟨d, (hnow drains htold d).2 ⟨node, hd⟩, (hours node d hd).1⟩
      · exact Or.inr hsaw

/-- A pass in the stage that waits for the drains leaves each request, or has seen that it has come
to an end. -/
theorem awaiting_of_pass (h : Ours id w) (hid : c'.clusterId = id)
    (hstage : (stateOf c').stage MastersStage = .waitForMastersToDrain)
    (path : Path besideDrainer (ensure settings now c') w asked q w') : Awaiting id w asked w' := by
  refine path.keeps (J := Awaiting id w) ?_ ?_ ?_
  · refine ⟨h, fun node hnode => Or.inl hnode, ?_, ?_⟩ <;> exact fun _ htold => by cases htold
  · exact fun _ _ _ h => ⟨h.ours, h.requested, h.named, h.told⟩
  · intro asked call r w₁ w₂ hissue h turn
    have hcall : Issues (awaitDrains settings c') asked call ∨
        ∃ target handler values, call = .saveStatus target handler values := by
      rcases issues_ensure hissue with hstaged | ⟨values, hcall⟩
      · rw [hstage] at hstaged
        exact Or.inl (issues_keeping hstaged)
      · exact Or.inr ⟨_, _, _, hcall⟩
    exact h.turn hid hcall turn

end Masters

end TenantFleet
