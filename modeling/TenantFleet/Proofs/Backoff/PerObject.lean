/-
# Whose failures delay an object

The failures of all objects are counted in one dictionary, and an object finds its own under its
namespace and name. What became of passes over objects with other keys does not matter to it; what
became of passes over an object with its key does, and the kind of an object is not part of the key.

* `Watched`, `Report` : the objects that passes are made over, and how a pass has ended;
* `streak` : the failures of some objects in a row, up to now;
* `Backoffs.of_after` : what is kept for an object after any reports;
* `Watched.key_eq_iff` : which objects share a key;
* `told_iff` : what an object is told, and when it depends on its own failures only.
-/
import Mathlib.Data.List.DropRight
import Mathlib.Data.Set.Basic
import TenantFleet.Object.MachinePool
import TenantFleet.Object.AzureConfig
import TenantFleet.Proofs.Backoff.Sequence
import TenantFleet.Proofs.Data.Dict
import TenantFleet.Stage.State

namespace TenantFleet

/-! ## Objects and reports -/

/-- An object that passes are made over. -/
inductive Watched
  | config (c : AzureConfig)
  | pool (p : AzureMachinePool)

namespace Watched

/-- The kind. -/
def kind : Watched → TargetKind
  | config _ => .azureConfig
  | pool _ => .azureMachinePool

/-- The metadata. -/
def metadata : Watched → Metadata
  | config c => c.metadata
  | pool p => p.metadata

/-- The key that the failures of an object are counted under. -/
def key (o : Watched) : String := o.metadata.key

/-- Whether two objects have one namespace and one name. -/
def namesake (a b : Watched) : Bool :=
  a.metadata.spaceName = b.metadata.spaceName && a.metadata.anyName = b.metadata.anyName

/-- Whether two objects are one: they have one kind, namespace and name. -/
def same (a b : Watched) : Bool := a.kind = b.kind && namesake a b

end Watched

/-- How a pass over an object has ended. -/
structure Report where
  /-- The object. -/
  object : Watched
  /-- Whether the pass has failed. -/
  failed : Bool

/-- The failures of some objects since the last success of one of them. -/
def streak (mine : Watched → Bool) (history : List Report) : Nat :=
  ((history.filter fun r => mine r.object).rtakeWhile Report.failed).length

namespace Backoffs

/-- The backoffs after a report; a failure is counted, and told the delay. -/
def take (b : Backoffs) (r : Report) : Backoffs :=
  if r.failed then ((b.failed r.object.key).delay r.object.key).2 else b.succeeded r.object.key

/-- The backoffs after some reports. -/
def after (history : List Report) : Backoffs := history.foldl take .empty

/-- The delay in seconds and the number of failures that an object is told when it fails now. -/
def told (history : List Report) (o : Watched) : Nat × Nat :=
  (((after history).failed o.key).delay o.key).1

end Backoffs

/-- What the failure of the given number in a row is told: a Fibonacci number of minutes, ten at
most, and the number of the failure, as 32 bits hold it. -/
def dueAt (n : Nat) : Nat × Nat := (60 * min 10 (Nat.fib n), n % UInt32.size)

/-! ## Keys -/

variable {a b o : Watched} {history : List Report} {mine : Watched → Bool} {r : Report}

/-- What stands before the first slash of a text. -/
theorem takeWhile_slash {s : String} (hs : '/' ∉ s.toList) (t : String) :
    (s ++ "/" ++ t).toList.takeWhile (· ≠ '/') = s.toList := by
  have hplain : ∀ x ∈ s.toList, decide (x ≠ '/') = true :=
    fun x hx => decide_eq_true fun hslash => hs (hslash ▸ hx)
  rw [String.toList_append, String.toList_append, List.append_assoc,
    List.takeWhile_append_of_pos hplain]
  exact List.append_nil s.toList

/-- Objects share a key exactly when they have one namespace and one name; a namespace holds no
slash. -/
theorem Watched.key_eq_iff (ha : '/' ∉ a.metadata.spaceName.toList)
    (hb : '/' ∉ b.metadata.spaceName.toList) :
    a.key = b.key ↔ namesake a b = true := by
  unfold Watched.key Metadata.key namesake
  rw [Bool.and_eq_true, decide_eq_true_eq, decide_eq_true_eq]
  constructor
  · intro h
    have hspace : a.metadata.spaceName = b.metadata.spaceName := by
      have hbefore := congrArg (fun t => t.toList.takeWhile (· ≠ '/')) h
      rw [takeWhile_slash ha, takeWhile_slash hb] at hbefore
      exact String.toList_inj.1 hbefore
    rw [hspace] at h
    exact ⟨hspace, (String.append_right_inj _).1 h⟩
  · rintro ⟨hspace, hname⟩
    rw [hspace, hname]

/-! ## Reports one after the other -/

/-- A report about one of the objects counts: a failure comes on top, a success ends the row. -/
theorem streak_concat_of_mine (hmine : mine r.object = true) (history : List Report) :
    streak mine (history ++ [r]) = if r.failed then streak mine history + 1 else 0 := by
  have hone : [r].filter (fun r => mine r.object) = [r] :=
    List.filter_eq_self.2 (by simpa using hmine)
  unfold streak
  rw [List.filter_append, hone, List.rtakeWhile_concat]
  split
  · rw [List.length_append, List.length_singleton]
  · rfl

/-- A report about another object does not. -/
theorem streak_concat_of_other (hother : mine r.object = false) (history : List Report) :
    streak mine (history ++ [r]) = streak mine history := by
  have hnone : [r].filter (fun r => mine r.object) = [] :=
    List.filter_eq_nil_iff.2 (by simpa using hother)
  unfold streak
  rw [List.filter_append, hnone, List.append_nil]

/-- The streak of objects is that of others which the reports are about alike. -/
theorem streak_congr (f g : Watched → Bool) (h : ∀ r ∈ history, f r.object = g r.object) :
    streak f history = streak g history := by
  unfold streak
  rw [List.filter_congr h]

namespace Backoffs

/-- What is told is what is kept. -/
theorem delay_fst (b : Backoffs) (key : String) :
    (b.delay key).1 = ((b.of key).backoff.current * 60, (b.of key).count.toNat) := rfl

/-- What is kept for a key after a failure under it. -/
theorem of_delay_failed (b : Backoffs) (key key' : String) :
    (((b.failed key).delay key).2).of key' =
      if key = key' then ⟨(b.of key).backoff.advance, (b.of key).count + 1⟩ else b.of key' := by
  unfold delay failed of Dict.getD Backoff.next
  dsimp only
  rw [Dict.get?_insert, Dict.get?_insert_self]
  split
  · rfl
  · rename_i hne
    rw [Dict.get?_insert_of_ne _ _ hne]

/-- What is kept for a key after a success under it. -/
theorem of_succeeded (b : Backoffs) (key key' : String) :
    (b.succeeded key).of key' =
      if key = key' ∧ (b.get? key).isSome = true then ⟨(b.of key).backoff.reset, 0⟩
        else b.of key' := by
  unfold succeeded of Dict.getD
  rw [Dict.get?_modify]
  by_cases hkey : key = key'
  · subst hkey
    cases b.get? key <;> simp
  · rw [if_neg hkey, if_neg fun h => hkey h.1]

/-- What is kept for an object that has failed so many times in a row. -/
def ofStreak (n : Nat) : FailureCount := ⟨Backoff.advance^[n] (.start 1 10), .ofNat n⟩

/-- A sequence that was restarted is at its start. -/
theorem reset_iterate (n : Nat) : (Backoff.advance^[n] (.start 1 10)).reset = .start 1 10 := by
  obtain ⟨-, hleast, hmost⟩ := Backoff.abreast_iterate 1 10 n
  rw [Backoff.reset, hleast, hmost]
  generalize Backoff.advance^[n] (.start 1 10) = b at *
  rfl

/-- What is kept for a key are the failures under this key since the last success under it, whatever
else was reported. -/
theorem of_after (history : List Report) (key : String) :
    (after history).of key = ofStreak (streak (fun o => o.key = key) history) := by
  induction history using List.reverseRecOn with
  | nil => rfl
  | append_singleton history r ih =>
    have hafter : after (history ++ [r]) = (after history).take r := by
      unfold after
      rw [List.foldl_concat]
    rw [hafter]
    by_cases hkey : r.object.key = key
    · rw [streak_concat_of_mine (decide_eq_true hkey)]
      subst hkey
      unfold take
      by_cases hfailed : r.failed = true
      · rw [if_pos hfailed, if_pos hfailed, of_delay_failed, if_pos rfl, ih]
        unfold ofStreak
        rw [Function.iterate_succ_apply', UInt32.ofNat_add]
        rfl
      · rw [if_neg hfailed, if_neg hfailed, of_succeeded]
        split
        · rw [ih]
          exact congrArg (FailureCount.mk · 0) (reset_iterate _)
        · -- A key that nothing was counted under is at its start anyway.
          rename_i hmissing
          have hnone : (after history).get? r.object.key = none := by simpa using hmissing
          unfold of Dict.getD
          rw [hnone]
          rfl
    · rw [streak_concat_of_other (decide_eq_false hkey), ← ih]
      unfold take
      split
      · rw [of_delay_failed, if_neg hkey]
      · rw [of_succeeded, if_neg fun h => hkey h.1]

/-- What an object is told when it fails depends on the failures under its key. -/
theorem told_eq (history : List Report) (o : Watched) :
    told history o = dueAt (streak (fun x => x.key = o.key) history + 1) := by
  have hof : ((after history).failed o.key).of o.key =
      ⟨Backoff.advance^[streak (fun x => x.key = o.key) history] (.start 1 10),
        .ofNat (streak (fun x => x.key = o.key) history + 1)⟩ := by
    have hkept := of_after history o.key
    unfold failed
    unfold of Dict.getD at hkept ⊢
    rw [Dict.get?_insert_self, hkept, UInt32.ofNat_add]
    rfl
  unfold told dueAt
  rw [delay_fst, hof, UInt32.toNat_ofNat', Backoff.current_iterate_advance (by decide), Nat.mul_one,
    Nat.mul_comm, Nat.min_comm]

end Backoffs

/-! ## Whose failures count -/

open Backoffs in
/-- Each failure of an object is told the delay and the number that belong to the failures in a row
of the objects with its namespace and name. So among given objects each is told those of its own
failures, whatever is reported of the others, exactly when no two objects of different kinds have
one namespace and one name. -/
theorem told_iff {objects : Set Watched}
    (hplain : ∀ o ∈ objects, '/' ∉ o.metadata.spaceName.toList) :
    (∀ history : List Report, (∀ r ∈ history, r.object ∈ objects) → ∀ o ∈ objects,
      told history o = dueAt (streak (·.namesake o) history + 1)) ∧
    ((∀ history : List Report, (∀ r ∈ history, r.object ∈ objects) → ∀ o ∈ objects,
        told history o = dueAt (streak (·.same o) history + 1)) ↔
      ∀ a ∈ objects, ∀ b ∈ objects, a.namesake b = true → a.kind = b.kind) := by
  have hshared : ∀ history : List Report, (∀ r ∈ history, r.object ∈ objects) → ∀ o ∈ objects,
      told history o = dueAt (streak (·.namesake o) history + 1) := by
    intro history hhistory o ho
    have hmine : ∀ r ∈ history, decide (r.object.key = o.key) = r.object.namesake o := fun r hr =>
      Bool.eq_iff_iff.2 (decide_eq_true_iff.trans
        (Watched.key_eq_iff (hplain _ (hhistory r hr)) (hplain o ho)))
    rw [told_eq, streak_congr _ (·.namesake o) hmine]
  refine ⟨hshared, ?_, ?_⟩
  · -- The first failure of an object is told as the second one when another object has failed
    -- under its key.
    intro hown a ha b hb hnames
    have hover : ∀ r ∈ [Report.mk a true], r.object ∈ objects := by
      intro r hr
      rw [List.mem_singleton.1 hr]
      exact ha
    have htold : dueAt (streak (·.namesake b) [⟨a, true⟩] + 1) =
        dueAt (streak (·.same b) [⟨a, true⟩] + 1) :=
      (hshared _ hover b hb).symm.trans (hown _ hover b hb)
    have hone : streak (·.namesake b) ([] ++ [⟨a, true⟩]) = 1 := streak_concat_of_mine hnames []
    by_contra hkind
    have hother : a.same b = false := by
      unfold Watched.same
      rw [decide_eq_false hkind, Bool.false_and]
    have hzero : streak (·.same b) ([] ++ [⟨a, true⟩]) = 0 := streak_concat_of_other hother []
    rw [List.nil_append] at hone hzero
    rw [hone, hzero] at htold
    revert htold
    decide
  · intro hkinds history hhistory o ho
    have hmine : ∀ r ∈ history, r.object.namesake o = r.object.same o := by
      intro r hr
      unfold Watched.same
      cases hnames : r.object.namesake o with
      | false => exact (Bool.and_false _).symm
      | true => rw [decide_eq_true (hkinds _ (hhistory r hr) o ho hnames), Bool.and_true]
    rw [hshared history hhistory o ho, streak_congr _ (·.same o) hmine]

/-! ## Objects of one name -/

/-- A cluster configuration of a name. -/
def namedConfig (name : String) : Watched := .config {
  metadata := { name := some name, space := some "default" }
  clusterId := "abc12"
  dnsZone := "k8s.abc12"
  etcdDomain := "etcd.abc12"
  location := "westeurope"
  masters := ["Standard_D4s_v3"]
  secret := ⟨"credentials", "default"⟩ }

/-- A pool of a name. -/
def namedPool (name : String) : Watched := .pool {
  metadata := { name := some name, space := some "default" }
  location := "westeurope"
  vmSize := "Standard_D4s_v3" }

open Backoffs in
/-- A cluster configuration and a pool of another name are told their own failures. -/
theorem told_iff_apart :
    (∀ o ∈ ({namedConfig "abc12", namedPool "np1"} : Set Watched),
      '/' ∉ o.metadata.spaceName.toList) ∧
      told (List.replicate 3 ⟨namedConfig "abc12", true⟩) (namedPool "np1") = (60, 1) ∧
      told (List.replicate 3 ⟨namedConfig "abc12", true⟩) (namedConfig "abc12") = (180, 4) := by
  have hplain : ∀ o ∈ ({namedConfig "abc12", namedPool "np1"} : Set Watched),
      '/' ∉ o.metadata.spaceName.toList := by
    rintro o (rfl | rfl) <;> decide +kernel
  have hkinds : ∀ a ∈ ({namedConfig "abc12", namedPool "np1"} : Set Watched),
      ∀ b ∈ ({namedConfig "abc12", namedPool "np1"} : Set Watched), a.namesake b = true →
      a.kind = b.kind := by
    rintro a (rfl | rfl) b (rfl | rfl) <;> decide +kernel
  have hover : ∀ r ∈ List.replicate 3 (Report.mk (namedConfig "abc12") true),
      r.object ∈ ({namedConfig "abc12", namedPool "np1"} : Set Watched) := by
    intro r hr
    rw [List.eq_of_mem_replicate hr]
    exact Or.inl rfl
  have hown := (told_iff hplain).2.2 hkinds _ hover
  refine ⟨hplain, (hown _ (Or.inr rfl)).trans ?_, (hown _ (Or.inl rfl)).trans ?_⟩ <;> decide +kernel

open Backoffs in
/-- A pool is told the failures of the cluster configuration of its name. -/
theorem not_told_own : ¬ ∀ (history : List Report) (o : Watched),
    told history o = dueAt (streak (·.same o) history + 1) := by
  intro hclaim
  have hfirst := hclaim (List.replicate 3 ⟨namedConfig "abc12", true⟩) (namedPool "abc12")
  revert hfirst
  decide +kernel

end TenantFleet
