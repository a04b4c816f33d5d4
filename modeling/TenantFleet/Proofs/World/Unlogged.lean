/-
# Worlds without their records

A world writes down every call, but no answer depends on what was written down. So as long as
nothing was asked to fail, a run in a world is, but for the records, the run in the world without
records that only does what the calls ask for.

* `World.unlogged` : a world without its records of calls;
* `World.Calm` : that nothing was asked to fail;
* `World.effect`, `World.plain` : what a call does, and the handler that does only this;
* `World.answer_unlogged` : a calm world does what a call asks for, and writes it down;
* `World.sims_plain` : so it answers like the world without records.
-/
import TenantFleet.Proofs.Program.Simulation
import TenantFleet.Proofs.World.Answer

namespace TenantFleet

/-! ## Subscriptions -/

namespace Subscription

/-- A subscription without its record of requests. -/
def unlogged (s : Subscription) : Subscription := { s with log := [] }

/-- A request does the same whatever is on record. -/
theorem perform_unlogged (s : Subscription) (group : String) (k : CloudCall) :
    ((s.logged k).perform group k).1 = (s.unlogged.perform group k).1 ∧
      ((s.logged k).perform group k).2.unlogged = (s.unlogged.perform group k).2 := by
  cases k with
  | putInstance scaleSet inst value =>
    have hsame : (s.logged (.putInstance scaleSet inst value)).instancesOf scaleSet =
        s.unlogged.instancesOf scaleSet := rfl
    simp only [perform]
    rw [hsame]
    split
    · exact ⟨rfl, rfl⟩
    · exact ⟨rfl, rfl⟩
  | _ => exact ⟨rfl, rfl⟩

/-- A request makes nothing fail. -/
theorem failures_perform (s : Subscription) (group : String) (k : CloudCall) :
    (s.perform group k).2.failures = s.failures := by
  cases k with
  | putInstance scaleSet inst value =>
    simp only [perform]
    split <;> rfl
  | _ => rfl

end Subscription

/-! ## Worlds -/

namespace World

variable {w w' : World} {c : Call}

/-- A world without its records of calls. -/
def unlogged (w : World) : World :=
  { w with
    log := []
    cluster := w.cluster.unlogged
    controlPlane := w.controlPlane.unlogged }

/-- Whether nothing was asked to fail. -/
structure Calm (w : World) : Prop where
  world : w.failures = .empty
  cluster : w.cluster.failures = .empty
  controlPlane : w.controlPlane.failures = .empty

/-- What a call does when nothing fails, apart from being written down. -/
def effect (c : Call) (w : World) : Except c.Failure c.Answer × World :=
  match c with
  | .cloud account group k =>
    (((w.subscription account).perform group k).1,
      w.setSubscription account ((w.subscription account).perform group k).2)
  | c => w.perform c

/-- The handler that does what is asked for and nothing else. -/
def plain : Handler World where
  answer := effect
  note := handler.note

@[simp] theorem plain_answer (c : Call) (w : World) : plain.answer c w = effect c w := rfl

/-- Nothing is asked to fail in a world without records of a calm one. -/
theorem Calm.unlogged (hw : w.Calm) : w.unlogged.Calm := ⟨hw.world, hw.cluster, hw.controlPlane⟩

/-- The subscriptions of a calm world are calm. -/
theorem Calm.subscription (hw : w.Calm) (a : Account) : (w.subscription a).failures = .empty := by
  cases a with
  | cluster secret => exact hw.cluster
  | controlPlane => exact hw.controlPlane

/-- A call that is not about a subscription does the same whatever is on record. -/
theorem perform_unlogged (w : World) (hc : ∀ account group k, c ≠ .cloud account group k) :
    ((w.record c).perform c).1 = (w.unlogged.perform c).1 ∧
      ((w.record c).perform c).2.unlogged = (w.unlogged.perform c).2 := by
  cases c with
  | cloud account group k => exact absurd rfl (hc account group k)
  | tenant space clusterId k =>
    cases k with
    | listNodes selector => exact ⟨rfl, rfl⟩
    | cordonNode name =>
      have hsame : (w.record (.tenant space clusterId (.cordonNode name))).nodes =
          w.unlogged.nodes := rfl
      simp only [perform, performTenant]
      rw [hsame]
      split <;> exact ⟨rfl, rfl⟩
    | deleteNode name =>
      have hsame : (w.record (.tenant space clusterId (.deleteNode name))).nodes =
          w.unlogged.nodes := rfl
      simp only [perform, performTenant]
      rw [hsame]
      split <;> exact ⟨rfl, rfl⟩
  | createDrain config =>
    have hsame : (w.record (.createDrain config)).drains = w.unlogged.drains := rfl
    simp only [perform, createDrain]
    rw [hsame]
    split <;> exact ⟨rfl, rfl⟩
  | deleteDrain space name =>
    have hsame : (w.record (.deleteDrain space name)).drains = w.unlogged.drains := rfl
    simp only [perform, deleteDrain]
    rw [hsame]
    split <;> exact ⟨rfl, rfl⟩
  | findBundle clusterId cert =>
    have hsame : (w.record (.findBundle clusterId cert)).bundles = w.unlogged.bundles := rfl
    simp only [perform]
    rw [hsame]
    split <;> exact ⟨rfl, rfl⟩
  | ensureCertConfig config =>
    have hsame : (w.record (.ensureCertConfig config)).certConfigs = w.unlogged.certConfigs := rfl
    simp only [perform, ensureCertConfig]
    rw [hsame]
    split
    · exact ⟨trivial, rfl⟩
    · exact ⟨trivial, rfl⟩
  | _ => constructor <;> rfl

/-- A calm world does what a call asks for, and writes it down. -/
theorem answer_unlogged (hw : w.Calm) (c : Call) :
    (answer c w).1 = (effect c w.unlogged).1 ∧
    (answer c w).2.unlogged = (effect c w.unlogged).2 := by
  rcases c.cloud_cases with ⟨account, group, k, rfl⟩ | hc
  · obtain ⟨hresult, hleft⟩ := (w.subscription account).perform_unlogged group k
    rw [answer_cloud_of_steady (hw.subscription account)]
    cases account with
    | cluster secret =>
      exact ⟨hresult, congrArg (fun s => { w.unlogged with cluster := s }) hleft⟩
    | controlPlane =>
      exact ⟨hresult, congrArg (fun s => { w.unlogged with controlPlane := s }) hleft⟩
  · rw [answer_of_steady hw.world hc]
    have heffect : effect c w.unlogged = w.unlogged.perform c := by
      cases c with
      | cloud account group k => exact absurd rfl (hc account group k)
      | _ => rfl
    rw [heffect]
    exact perform_unlogged w hc

/-- No call makes others fail. -/
theorem Calm.effect (hw : w.Calm) (c : Call) : (World.effect c w).2.Calm := by
  cases c with
  | cloud account group k =>
    have hkept : ((w.subscription account).perform group k).2.failures = .empty :=
      (Subscription.failures_perform _ _ _).trans (hw.subscription account)
    cases account with
    | cluster secret => exact ⟨hw.world, hkept, hw.controlPlane⟩
    | controlPlane => exact ⟨hw.world, hw.cluster, hkept⟩
  | tenant space clusterId k =>
    cases k with
    | listNodes selector => exact hw
    | cordonNode name =>
      simp only [World.effect, perform, performTenant]
      split <;> exact ⟨hw.world, hw.cluster, hw.controlPlane⟩
    | deleteNode name =>
      simp only [World.effect, perform, performTenant]
      split <;> exact ⟨hw.world, hw.cluster, hw.controlPlane⟩
  | createDrain config =>
    simp only [World.effect, perform, createDrain]
    split <;> exact ⟨hw.world, hw.cluster, hw.controlPlane⟩
  | deleteDrain space name =>
    simp only [World.effect, perform, deleteDrain]
    split <;> exact ⟨hw.world, hw.cluster, hw.controlPlane⟩
  | findBundle clusterId cert =>
    simp only [World.effect, perform]
    split <;> exact hw
  | ensureCertConfig config =>
    simp only [World.effect, perform, World.ensureCertConfig]
    split <;> exact ⟨hw.world, hw.cluster, hw.controlPlane⟩
  | _ => exact ⟨hw.world, hw.cluster, hw.controlPlane⟩

/-- A world is calm when it is but for its records. -/
theorem Calm.of_unlogged (hw : w.unlogged.Calm) : w.Calm := ⟨hw.world, hw.cluster, hw.controlPlane⟩

/-- A calm world stays calm. -/
theorem Calm.answer (hw : w.Calm) (c : Call) : (World.answer c w).2.Calm := by
  refine .of_unlogged ?_
  rw [(answer_unlogged hw c).2]
  exact hw.unlogged.effect c

/-- A calm world answers like the world without records that only does what is asked for. -/
theorem sims_plain : Handler.Sims handler plain fun w u => w.Calm ∧ w.unlogged = u where
  result := by
    rintro w u ⟨hw, rfl⟩ c
    exact (answer_unlogged hw c).1
  state := by
    rintro w u ⟨hw, rfl⟩ c
    exact ⟨hw.answer c, (answer_unlogged hw c).2⟩
  note := by
    rintro w u ⟨hw, rfl⟩ event
    exact ⟨⟨hw.world, hw.cluster, hw.controlPlane⟩, rfl⟩

end World

/-- A run that succeeds without records succeeds with them. -/
theorem Program.Succeeds.of_unlogged {α : Type} {P : Call → Prop} {Q : α → World → Prop}
    {p : Program α} {w : World} (hw : w.Calm) (hs : Succeeds World.plain P Q p w.unlogged) :
    Succeeds World.handler P (fun a w' => Q a w'.unlogged ∧ w'.Calm) p w := by
  refine (World.sims_plain.succeeds ⟨hw, rfl⟩ hs).mono (fun _ hP => hP) ?_
  rintro a w' ⟨u', hQ, hcalm, rfl⟩
  exact ⟨hQ, hcalm⟩

end TenantFleet
