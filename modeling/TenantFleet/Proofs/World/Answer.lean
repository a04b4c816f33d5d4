/-
# How a world answers

The spec of each layer of a world in memory: what is written down before a call is answered, which
failures were asked for, and which part of the world a call is about.

* `Subscription.answer_cases` : a request fails without effect, or has its effect;
* `World.cluster_answer` : only requests to the subscription of the cluster change it;
* `World.answer_of_steady` and `World.answer_cloud_of_steady` : what is answered when no failure was
  asked for.
-/
import TenantFleet.World.Basic

namespace TenantFleet

/-! ## Subscriptions -/

namespace Subscription

/-- A subscription that wrote a request down. -/
def logged (s : Subscription) (c : CloudCall) : Subscription :=
  { s with log := s.log ++ [c.method ++ ":" ++ c.target] }

/-- A request fails as was asked for, or is performed. -/
theorem answer_cases (s : Subscription) (group : String) (c : CloudCall) :
    (∃ e, s.answer group c = (.error e, s.logged c)) ∨
      s.answer group c = (s.logged c).perform group c := by
  unfold answer
  cases hf : s.failures.get? c.method with
  | none => exact Or.inr (by simp [logged, hf])
  | some status => exact Or.inl ⟨_, by simp [logged, hf]; rfl⟩

/-- A request is performed when no failure was asked for its method. -/
theorem answer_of_noFailure {s : Subscription} {c : CloudCall} (h : s.failures.get? c.method = none)
    (group : String) : s.answer group c = (s.logged c).perform group c := by
  simp [answer, logged, h]

end Subscription

/-- A call is about a subscription, or it is not. -/
theorem Call.cloud_cases (c : Call) : (∃ account group k, c = .cloud account group k) ∨
    ∀ account group k, c ≠ .cloud account group k := by
  by_cases hcloud : ∃ account group k, c = .cloud account group k
  · exact Or.inl hcloud
  · exact Or.inr fun account group k heq => hcloud ⟨account, group, k, heq⟩

/-! ## Worlds -/

namespace World

/-- A call that is not about a subscription is written down, then fails as was asked for or is
performed. -/
theorem answer_eq (w : World) {c : Call} (hc : ∀ account group k, c ≠ .cloud account group k) :
    answer c w =
      match ((w.record c).failureFor c).bind (asFailure c) with
      | some e => (.error e, w.record c)
      | none => (w.record c).perform c := by
  cases c with
  | cloud account group k => exact absurd rfl (hc account group k)
  | _ => rfl

/-- The subscription of the cluster after a call that is not about it. -/
theorem cluster_perform (w : World) {c : Call}
    (hc : ∀ secret group k, c ≠ .cloud (.cluster secret) group k) :
    (w.perform c).2.cluster = w.cluster := by
  cases c with
  | cloud account group k =>
    cases account with
    | cluster secret => exact absurd rfl (hc secret group k)
    | controlPlane => rfl
  | tenant space clusterId k =>
    cases k with
    | listNodes selector => rfl
    | cordonNode name =>
      simp only [perform, performTenant]
      split <;> rfl
    | deleteNode name =>
      simp only [perform, performTenant]
      split <;> rfl
  | createDrain config =>
    simp only [perform, createDrain]
    split <;> rfl
  | deleteDrain space name =>
    simp only [perform, deleteDrain]
    split <;> rfl
  | findBundle clusterId cert =>
    simp only [perform]
    split <;> rfl
  | ensureCertConfig config =>
    simp only [perform, ensureCertConfig]
    split <;> rfl
  | _ => rfl

/-- Only requests to the subscription of the cluster change it. -/
theorem cluster_answer (w : World) {c : Call}
    (hc : ∀ secret group k, c ≠ .cloud (.cluster secret) group k) :
    (answer c w).2.cluster = w.cluster := by
  by_cases h : ∃ account group k, c = .cloud account group k
  · obtain ⟨account, group, k, rfl⟩ := h
    exact cluster_perform w hc
  · rw [answer_eq w fun account group k e => h ⟨account, group, k, e⟩]
    split
    · rfl
    · exact cluster_perform (w.record c) hc

/-- The writes after a call that is none. -/
theorem saves_perform (w : World) {c : Call}
    (hc : ∀ target handler values, c ≠ .saveStatus target handler values) :
    (w.perform c).2.saves = w.saves := by
  cases c with
  | cloud account group k => cases account <;> rfl
  | tenant space clusterId k =>
    cases k with
    | listNodes selector => rfl
    | cordonNode name =>
      simp only [perform, performTenant]
      split <;> rfl
    | deleteNode name =>
      simp only [perform, performTenant]
      split <;> rfl
  | createDrain config =>
    simp only [perform, createDrain]
    split <;> rfl
  | deleteDrain space name =>
    simp only [perform, deleteDrain]
    split <;> rfl
  | findBundle clusterId cert =>
    simp only [perform]
    split <;> rfl
  | ensureCertConfig config =>
    simp only [perform, ensureCertConfig]
    split <;> rfl
  | saveStatus target handler values => exact absurd rfl (hc target handler values)
  | _ => rfl

/-- Only writes are kept with the writes. -/
theorem saves_answer (w : World) {c : Call}
    (hc : ∀ target handler values, c ≠ .saveStatus target handler values) :
    (answer c w).2.saves = w.saves := by
  by_cases h : ∃ account group k, c = .cloud account group k
  · obtain ⟨account, group, k, rfl⟩ := h
    exact saves_perform w hc
  · rw [answer_eq w fun account group k e => h ⟨account, group, k, e⟩]
    split
    · rfl
    · exact saves_perform (w.record c) hc

/-- A write is kept or fails. -/
theorem saves_answer_save (w : World) (target : StatusTarget) (handler : String)
    (values : Dict String) : (answer (.saveStatus target handler values) w).2.saves = w.saves ∨
      (answer (.saveStatus target handler values) w).2.saves = w.saves ++
      [⟨target, handler, values⟩] := by
  rw [answer_eq w (by rintro _ _ _ ⟨⟩)]
  split
  · exact Or.inl rfl
  · exact Or.inr rfl

/-! ## Parts of a world -/

@[simp] theorem subscription_setSubscription (w : World) (a : Account) (s : Subscription) :
    (w.setSubscription a s).subscription a = s := by
  cases a <;> rfl

@[simp] theorem nodes_setSubscription (w : World) (a : Account) (s : Subscription) :
    (w.setSubscription a s).nodes = w.nodes := by
  cases a <;> rfl

@[simp] theorem saves_setSubscription (w : World) (a : Account) (s : Subscription) :
    (w.setSubscription a s).saves = w.saves := by
  cases a <;> rfl

@[simp] theorem failures_setSubscription (w : World) (a : Account) (s : Subscription) :
    (w.setSubscription a s).failures = w.failures := by
  cases a <;> rfl

@[simp] theorem subscription_record (w : World) (c : Call) (a : Account) :
    (w.record c).subscription a = w.subscription a := by
  cases a <;> rfl

/-! ## Worlds without failures -/

/-- A call that is not about a subscription is performed when no failure was asked for. -/
theorem answer_of_steady {w : World} (hw : w.failures = .empty) {c : Call}
    (hc : ∀ account group k, c ≠ .cloud account group k) : answer c w = (w.record c).perform c := by
  have hnone : (w.record c).failureFor c = none := by
    have hfailures : (w.record c).failures = .empty := hw
    simp only [failureFor, hfailures, Dict.get?_empty, Option.orElse_eq_orElse, Option.orElse_none]
  rw [answer_eq w hc, hnone]
  rfl

/-- A request is performed when no failure was asked of its subscription. -/
theorem answer_cloud_of_steady {w : World} {a : Account} (hw : (w.subscription a).failures = .empty)
    (group : String) (k : CloudCall) :
    answer (.cloud a group k) w =
      ((((w.subscription a).logged k).perform group k).1,
        w.setSubscription a (((w.subscription a).logged k).perform group k).2) := by
  have hnone : (w.subscription a).failures.get? k.method = none := by
    rw [hw]
    rfl
  show (((w.subscription a).answer group k).1,
    w.setSubscription a ((w.subscription a).answer group k).2) = _
  rw [Subscription.answer_of_noFailure hnone]

end World

end TenantFleet
