/-
# Runs in which nothing is made to fail

A world may have been asked to make some calls fail. A run that makes none of them does not depend
on what was asked: it is the run in the world where nothing is made to fail.

* `World.Refuses` : whether a call was asked to fail;
* `World.calmed` : a world without the failures that were asked for;
* `World.answer_calmed` : a call that was not asked to fail is answered as in the calmed world;
* `World.run_calmed` : so are the runs that make no other calls.
-/
import TenantFleet.Proofs.World.Unlogged

namespace TenantFleet

open Program

/-! ## Subscriptions -/

namespace Subscription

/-- A subscription without the failures that were asked for. -/
def calmed (s : Subscription) : Subscription := { s with failures := .empty }

/-- What a request does does not depend on what else is asked to fail. -/
theorem perform_calmed (s : Subscription) (group : String) (k : CloudCall) :
    (s.perform group k).1 = (s.calmed.perform group k).1 ∧
      (s.perform group k).2.calmed = (s.calmed.perform group k).2 := by
  cases k with
  | putInstance scaleSet inst value =>
    have hsame : s.calmed.instancesOf scaleSet = s.instancesOf scaleSet := rfl
    simp only [perform]
    rw [hsame]
    split
    · exact ⟨rfl, rfl⟩
    · exact ⟨rfl, rfl⟩
  | _ => exact ⟨rfl, rfl⟩

end Subscription

/-! ## Worlds -/

namespace World

variable {w u : World} {c : Call}

/-- A world without the failures that were asked for. -/
def calmed (w : World) : World :=
  { w with
    failures := .empty
    cluster := w.cluster.calmed
    controlPlane := w.controlPlane.calmed }

/-- Whether a call was asked to fail. -/
def Refuses (w : World) : Call → Prop
  | .cloud account _ k => (w.subscription account).failures.get? k.method ≠ none
  | c => (w.failureFor c).bind (asFailure c) ≠ none

/-- Nothing is asked to fail in a calmed world. -/
theorem calm_calmed (w : World) : w.calmed.Calm := ⟨rfl, rfl, rfl⟩

/-- A call that is not about a subscription was asked to fail when there is a failure for it. -/
theorem refuses_iff (hc : ∀ account group k, c ≠ .cloud account group k) :
    w.Refuses c ↔ (w.failureFor c).bind (asFailure c) ≠ none := by
  cases c with
  | cloud account group k => exact absurd rfl (hc account group k)
  | _ => exact Iff.rfl

/-- In a calm world no call was asked to fail. -/
theorem Calm.not_refuses (hw : w.Calm) (c : Call) : ¬w.Refuses c := by
  rcases c.cloud_cases with ⟨account, group, k, rfl⟩ | hother
  · have hnone : (w.subscription account).failures.get? k.method = none := by
      rw [hw.subscription account]
      rfl
    exact fun hrefuses => hrefuses hnone
  · have hnone : w.failureFor c = none := by
      unfold failureFor
      simp only [hw.world, Dict.get?_empty, Option.orElse_eq_orElse, Option.orElse_none]
    rw [refuses_iff hother, hnone]
    exact fun hsome => hsome rfl

/-- What a call does that is not about a subscription does not depend on what else is asked to
fail. -/
theorem perform_calmed (w : World) (hc : ∀ account group k, c ≠ .cloud account group k) :
    (w.perform c).1 = (w.calmed.perform c).1 ∧ (w.perform c).2.calmed = (w.calmed.perform c).2 := by
  cases c with
  | cloud account group k => exact absurd rfl (hc account group k)
  | tenant space clusterId k =>
    cases k with
    | listNodes selector => exact ⟨rfl, rfl⟩
    | cordonNode name =>
      have hsame : w.calmed.nodes = w.nodes := rfl
      simp only [perform, performTenant]
      rw [hsame]
      split <;> exact ⟨rfl, rfl⟩
    | deleteNode name =>
      have hsame : w.calmed.nodes = w.nodes := rfl
      simp only [perform, performTenant]
      rw [hsame]
      split <;> exact ⟨rfl, rfl⟩
  | createDrain config =>
    have hsame : w.calmed.drains = w.drains := rfl
    simp only [perform, createDrain]
    rw [hsame]
    split <;> exact ⟨rfl, rfl⟩
  | deleteDrain space name =>
    have hsame : w.calmed.drains = w.drains := rfl
    simp only [perform, deleteDrain]
    rw [hsame]
    split <;> exact ⟨rfl, rfl⟩
  | findBundle clusterId cert =>
    have hsame : w.calmed.bundles = w.bundles := rfl
    simp only [perform]
    rw [hsame]
    split <;> exact ⟨rfl, rfl⟩
  | ensureCertConfig config =>
    have hsame : w.calmed.certConfigs = w.certConfigs := rfl
    simp only [perform, ensureCertConfig]
    rw [hsame]
    split <;> exact ⟨trivial, rfl⟩
  | _ => exact ⟨rfl, rfl⟩

/-- A call that was not asked to fail is answered as in the calmed world. -/
theorem answer_calmed (hc : ¬w.Refuses c) :
    (answer c w).1 = (answer c w.calmed).1 ∧ (answer c w).2.calmed = (answer c w.calmed).2 := by
  rcases c.cloud_cases with ⟨account, group, k, rfl⟩ | hother
  · have hnone : (w.subscription account).failures.get? k.method = none := Classical.not_not.1 hc
    obtain ⟨hresult, hleft⟩ := ((w.subscription account).logged k).perform_calmed group k
    have hanswer : answer (.cloud account group k) w =
        ((((w.subscription account).logged k).perform group k).1,
          w.setSubscription account (((w.subscription account).logged k).perform group k).2) := by
      show (((w.subscription account).answer group k).1,
        w.setSubscription account ((w.subscription account).answer group k).2) = _
      rw [Subscription.answer_of_noFailure hnone]
    rw [hanswer, answer_cloud_of_steady (w.calm_calmed.subscription account)]
    cases account with
    | cluster secret => exact ⟨hresult, congrArg (fun s => { w.calmed with cluster := s }) hleft⟩
    | controlPlane => exact ⟨hresult, congrArg (fun s => { w.calmed with controlPlane := s }) hleft⟩
  · have hnone : ((w.record c).failureFor c).bind (asFailure c) = none :=
      Classical.not_not.1 fun hsome => hc ((refuses_iff hother).2 hsome)
    rw [answer_eq w hother, hnone, answer_of_steady rfl hother]
    exact perform_calmed (w.record c) hother

/-! ## What is asked to fail stays so -/

/-- A call that is not about a subscription makes nothing fail. -/
theorem failures_perform (w : World) (hc : ∀ account group k, c ≠ .cloud account group k) :
    (w.perform c).2.failures = w.failures ∧ (w.perform c).2.cluster.failures = w.cluster.failures ∧
      (w.perform c).2.controlPlane.failures = w.controlPlane.failures := by
  cases c with
  | cloud account group k => exact absurd rfl (hc account group k)
  | tenant space clusterId k =>
    cases k with
    | listNodes selector => exact ⟨rfl, rfl, rfl⟩
    | cordonNode name =>
      simp only [perform, performTenant]
      split <;> exact ⟨rfl, rfl, rfl⟩
    | deleteNode name =>
      simp only [perform, performTenant]
      split <;> exact ⟨rfl, rfl, rfl⟩
  | createDrain config =>
    simp only [perform, createDrain]
    split <;> exact ⟨rfl, rfl, rfl⟩
  | deleteDrain space name =>
    simp only [perform, deleteDrain]
    split <;> exact ⟨rfl, rfl, rfl⟩
  | findBundle clusterId cert =>
    simp only [perform]
    split <;> exact ⟨rfl, rfl, rfl⟩
  | ensureCertConfig config =>
    simp only [perform, World.ensureCertConfig]
    split <;> exact ⟨rfl, rfl, rfl⟩
  | _ => exact ⟨rfl, rfl, rfl⟩

/-- A call makes nothing fail, and nothing succeed. -/
theorem failures_answer (c : Call) (w : World) :
    (answer c w).2.failures = w.failures ∧ (answer c w).2.cluster.failures = w.cluster.failures ∧
      (answer c w).2.controlPlane.failures = w.controlPlane.failures := by
  rcases c.cloud_cases with ⟨account, group, k, rfl⟩ | hother
  · have hkept : ((w.subscription account).answer group k).2.failures =
        (w.subscription account).failures := by
      rcases (w.subscription account).answer_cases group k with ⟨e, heq⟩ | heq
      · rw [heq]
        rfl
      · rw [heq, Subscription.failures_perform]
        rfl
    cases account with
    | cluster secret => exact ⟨rfl, hkept, rfl⟩
    | controlPlane => exact ⟨rfl, rfl, hkept⟩
  · rw [answer_eq w hother]
    split
    · exact ⟨rfl, rfl, rfl⟩
    · exact failures_perform (w.record c) hother

/-- Worlds of which the same was asked refuse the same calls. -/
theorem Refuses.congr (hworld : u.failures = w.failures)
    (hcluster : u.cluster.failures = w.cluster.failures)
    (hplane : u.controlPlane.failures = w.controlPlane.failures)
    (h : u.Refuses c) : w.Refuses c := by
  rcases c.cloud_cases with ⟨account, group, k, rfl⟩ | hother
  · have hsame : (u.subscription account).failures = (w.subscription account).failures := by
      cases account with
      | cluster secret => exact hcluster
      | controlPlane => exact hplane
    change (u.subscription account).failures.get? k.method ≠ none at h
    rwa [hsame] at h
  · have hsame : u.failureFor c = w.failureFor c := by
      unfold failureFor
      rw [hworld]
    rw [refuses_iff hother] at h ⊢
    rwa [hsame] at h

/-! ## Runs -/

/-- **Runs without failures.** A run that makes no call that was asked to fail has the same end,
makes the same calls with the same results, and leaves the same world as in the calmed world. -/
theorem run_calmed {α : Type} (p : Program α) (w : World)
    (hp : ∀ call ∈ calls handler p w, ¬w.Refuses call) :
    (run handler p w).1 = (run handler p w.calmed).1 ∧
      (run handler p w).2.calmed = (run handler p w.calmed).2 ∧
      calls handler p w = calls handler p w.calmed := by
  induction p generalizing w with
  | done r => exact ⟨rfl, rfl, rfl⟩
  | note event rest ih => exact ih _ hp
  | ask c resume ih =>
    obtain ⟨hresult, hleft⟩ := answer_calmed (hp c List.mem_cons_self)
    obtain ⟨hworld, hcluster, hplane⟩ := failures_answer c w
    have hrest := ih (answer c w).1 (answer c w).2 fun call hcall hrefuses =>
      hp call (List.mem_cons_of_mem _ hcall) (hrefuses.congr hworld hcluster hplane)
    rw [hleft] at hrest
    simp only [Program.run, Program.calls, handler]
    rw [← hresult]
    exact ⟨hrest.1, hrest.2.1, congrArg (c :: ·) hrest.2.2⟩

end World

end TenantFleet
