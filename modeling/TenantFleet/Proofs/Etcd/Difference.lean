/-
# What is left of a list

Taking items away goes through one list and uses up the items of another one, which loses its order
on the way. So only how often each item stands in the other list counts: the first items of each
kind are taken away, as many as there are in both lists, and the others stay in their order.

* `perm_swapRemove` : what is left when an item is used up;
* `difference_eq_diff` : the items that are left, as lists without order;
* `withoutFirst` and `difference_after` : which items are left, by what stands before them;
* `difference_drops_first` : all of it, with the number of items that are left of each kind.
-/
import Mathlib.Data.List.Count
import Mathlib.Data.List.Perm.Basic
import TenantFleet.Etcd.Member

namespace TenantFleet.Etcd

variable {a b : List String} {x : String} {i : Nat}

/-! ## Using up items -/

/-- Besides the item at a place, all items stay. -/
theorem perm_swapRemove {l : List String} (h : i < l.length) : l.Perm (l[i] :: swapRemove l i) := by
  have hne : l ≠ [] := List.ne_nil_of_length_pos (Nat.zero_lt_of_lt h)
  obtain ⟨front, last, rfl⟩ := (List.eq_nil_or_concat' l).resolve_left hne
  have hswap : swapRemove (front ++ [last]) i = ((front ++ [last]).set i last).dropLast := by
    unfold swapRemove
    rw [List.getLast?_concat]
  rw [hswap]
  rw [List.length_append, List.length_singleton] at h
  by_cases hi : i < front.length
  · -- The last item takes the place of another one.
    have hset : ((front ++ [last]).set i last).dropLast = front.set i last := by
      rw [List.set_append, if_pos hi, List.dropLast_concat]
    rw [hset, List.getElem_append_left hi]
    calc (front ++ [last]).Perm (last :: front) := List.perm_append_singleton last front
      _ |>.Perm (last :: front[i] :: front.eraseIdx i) :=
      (List.getElem_cons_eraseIdx_perm hi).symm.cons last
      _ |>.Perm (front[i] :: last :: front.eraseIdx i) := .swap _ _ _
      _ |>.Perm (front[i] :: front.set i last) := (List.set_perm_cons_eraseIdx hi last).symm.cons _
  · -- It is the last item itself that goes.
    obtain rfl : i = front.length := by omega
    have hset : ((front ++ [last]).set front.length last).dropLast = front := by
      rw [List.set_append, if_neg hi, Nat.sub_self, List.set_cons_zero, List.dropLast_concat]
    rw [hset, List.getElem_concat_length rfl]
    exact List.perm_append_singleton last front

/-- The item that is used up is the one that was looked for. -/
theorem perm_of_idxOf? (h : b.idxOf? x = some i) : b.Perm (x :: swapRemove b i) := by
  obtain ⟨hi, rfl, -⟩ := List.idxOf?_eq_some_iff.1 h
  exact perm_swapRemove hi

/-! ## The items that are left -/

/-- The items that are left are those of the difference of the lists. -/
theorem difference_eq_diff (a b : List String) : difference a b = a.diff b := by
  induction a generalizing b with
  | nil => exact (List.nil_diff b).symm
  | cons x rest ih =>
    rw [difference, List.cons_diff]
    cases hx : b.idxOf? x with
    | none => rw [if_neg (List.idxOf?_eq_none_iff.1 hx), ih]
    | some i =>
      have hperm := perm_of_idxOf? hx
      have hmem : x ∈ b := hperm.symm.subset List.mem_cons_self
      -- The order in which the others stand makes no difference to what they take away.
      have hothers : (swapRemove b i).Perm (b.erase x) :=
        (hperm.symm.trans (List.perm_cons_erase hmem)).cons_inv
      dsimp only
      rw [if_pos hmem, ih, hothers.diff_left rest]

/-! ## Which items are left -/

/-- The list without the first items of each kind, as many as the count of the kind says: an item
stays when at least as many equal items stand before it. -/
def withoutFirst (count : String → Nat) (a : List String) : List String :=
  (a.zipIdx.filter fun p => decide (count p.1 ≤ (a.take p.2).count p.1)).map Prod.fst

/-- What is left of the rest of a list, when the items before it have used up what is not at hand
any more. -/
theorem difference_after {seen rest unused : List String}
    (h : ∀ x, unused.count x = b.count x - seen.count x) :
    difference rest unused =
      ((rest.zipIdx seen.length).filter fun p =>
        decide (b.count p.1 ≤ ((seen ++ rest).take p.2).count p.1)).map
        Prod.fst := by
  induction rest generalizing seen unused with
  | nil => rfl
  | cons x rest ih =>
    have hsplit : seen ++ x :: rest = (seen ++ [x]) ++ rest := by
      rw [List.append_assoc, List.singleton_append]
    have hstays : b.count x ≤ ((seen ++ x :: rest).take seen.length).count x ↔ x ∉ unused := by
      rw [List.take_left, ← List.count_eq_zero, h, Nat.sub_eq_zero_iff_le]
    have hseen : ∀ y, (seen ++ [x]).count y = seen.count y + if x = y then 1 else 0 := by
      intro y
      rw [List.count_append, List.count_singleton]
      simp only [beq_iff_eq]
    rw [difference, List.zipIdx_cons, List.filter_cons]
    cases hx : unused.idxOf? x with
    | none =>
      have hnot := List.idxOf?_eq_none_iff.1 hx
      rw [if_pos (decide_eq_true (hstays.2 hnot)), List.map_cons]
      have hcounts : ∀ y, unused.count y = b.count y - (seen ++ [x]).count y := by
        intro y
        rw [hseen, h]
        split
        · rename_i hxy
          have hzero := List.count_eq_zero.2 hnot
          rw [h, hxy] at hzero
          omega
        · rfl
      rw [ih hcounts, hsplit, List.length_append, List.length_singleton]
    | some i =>
      have hperm := perm_of_idxOf? hx
      have hmem : x ∈ unused := hperm.symm.subset List.mem_cons_self
      rw [if_neg (by rw [decide_eq_true_iff, hstays]; exact not_not_intro hmem)]
      have hcounts : ∀ y, (swapRemove unused i).count y = b.count y - (seen ++ [x]).count y := by
        intro y
        have hcount := hperm.count_eq y
        rw [List.count_cons, h] at hcount
        simp only [beq_iff_eq] at hcount
        rw [hseen]
        omega
      dsimp only
      rw [ih hcounts, hsplit, List.length_append, List.length_singleton]

/-- Before an item there are fewer equal ones than in the whole list. -/
theorem count_take_lt {l : List String} (h : (x, i) ∈ l.zipIdx) :
    (l.take i).count x < l.count x := by
  obtain ⟨-, hi, hx⟩ := List.mem_zipIdx h
  rw [Nat.zero_add] at hi
  have hdrop : x ∈ l.drop i := by
    rw [List.drop_eq_getElem_cons hi, hx]
    exact List.mem_cons_self
  calc (l.take i).count x < (l.take i).count x + (l.drop i).count x :=
        Nat.lt_add_of_pos_right (List.count_pos_iff.2 hdrop)
    _ = l.count x := by rw [← List.count_append, List.take_append_drop]

/-- Of each kind the first items are taken away, as many as there are in both lists. -/
theorem difference_eq_withoutFirst (a b : List String) :
    difference a b = withoutFirst (fun x => min (a.count x) (b.count x)) a := by
  have hnone : ∀ x, b.count x = b.count x - ([] : List String).count x :=
    fun x => (Nat.sub_zero _).symm
  rw [difference_after hnone]
  unfold withoutFirst
  refine congrArg (List.map Prod.fst) (List.filter_congr fun p hp => ?_)
  have hlt := count_take_lt hp
  rw [List.nil_append, decide_eq_decide]
  dsimp only
  omega

/-- The items that are left of a list stand there in their order: of each kind the first ones are
taken away, as many as there are in both lists. So as many are left of a kind as it has more in the
one list than in the other, and none if it has not; and the order of the other list makes no
difference. -/
theorem difference_drops_first (a b : List String) :
    difference a b = withoutFirst (fun x => min (a.count x) (b.count x)) a ∧
    (difference a b).Sublist a ∧
    (∀ x, ((difference a b).count x : Int) = max 0 ((a.count x : Int) - b.count x)) ∧
    ∀ b', b.Perm b' → difference a b' = difference a b := by
  refine ⟨difference_eq_withoutFirst a b, ?_, fun x => ?_, fun b' hperm => ?_⟩
  · rw [difference_eq_diff]
    exact List.diff_sublist a b
  · rw [difference_eq_diff, List.count_diff]
    omega
  · rw [difference_eq_diff, difference_eq_diff, hperm.diff_left a]

/-- Of three equal zones and two others, two of the equal ones and one of the others are taken away,
whatever the order in which those are listed. -/
theorem difference_drops_first_zones :
    ["2", "1", "1"].Perm ["1", "2", "1"] ∧
    difference ["1", "2", "1", "3", "1"] ["1", "2", "1"] =
      difference ["1", "2", "1", "3", "1"] ["2", "1", "1"] ∧
    difference ["1", "2", "1", "3", "1"] ["2", "1", "1"] = ["3", "1"] := by
  have hperm : ["2", "1", "1"].Perm ["1", "2", "1"] := .swap _ _ _
  refine ⟨hperm, (difference_drops_first ["1", "2", "1", "3", "1"] ["2", "1", "1"]).2.2.2 _
    hperm, by decide⟩

end TenantFleet.Etcd
