/-
# What the name of a node says

The node of a numbered instance has the name of the scale set and a numeral with at least six
digits. The numeral says which instance it is, so no node is taken for that of another instance, and
as long as six digits are enough the names have the order of the numbers.

* `nodeName_identifies` : numerals, names and their order.
-/
import TenantFleet.Proofs.Text.Base36
import TenantFleet.Proofs.Workers.Classification

namespace TenantFleet

/-- Names of one scale set have the order of their numerals. -/
theorem append_ofList_lt_iff (front : String) {ds ds' : List Char} :
    front ++ String.ofList ds < front ++ String.ofList ds' ↔ ds < ds' := by
  rw [String.lt_iff, String.toList_append, String.toList_append, String.toList_ofList,
    String.toList_ofList]
  induction front.toList with
  | nil => exact Iff.rfl
  | cons c rest ih =>
    rw [List.cons_append, List.cons_append, List.cons_lt_cons_self]
    exact ih

/-- The name of the node of a numbered instance ends in the numeral of its number, which has six
digits or more. Different numbers of a scale set have different names, and those with six digits
have the order of their numbers. -/
theorem nodeName_identifies (scaleSet : String) :
    (∀ id, id < Nat.pow 2 64 →
        ∃ ds, nodeName scaleSet (toString id) = scaleSet ++ "-" ++ String.ofList ds ∧
          Base36.IsNumeral 6 id ds) ∧
      (∀ id id', id < Nat.pow 2 64 → id' < Nat.pow 2 64 → id ≠ id' →
        nodeName scaleSet (toString id) ≠ nodeName scaleSet (toString id')) ∧
      ∀ id id', id < 36 ^ 6 → id' < 36 ^ 6 →
        (nodeName scaleSet (toString id) < nodeName scaleSet (toString id') ↔ id < id') := by
  have hsix {id : Nat} (h : id < 36 ^ 6) : id < Nat.pow 2 64 := Nat.lt_trans h (by decide)
  refine ⟨fun id h => ?_, fun id id' h h' hne => ?_, fun id id' h h' => ?_⟩
  · exact ⟨Base36.padded nodeDigits id, nodeName_toString scaleSet h, Base36.isNumeral_padded 5 id⟩
  · exact fun hname => hne (nodeName_injective h h' hname)
  · rw [nodeName_toString scaleSet (hsix h), nodeName_toString scaleSet (hsix h'),
      append_ofList_lt_iff]
    exact Base36.padded_lt_padded_iff h h'

/-- The last number with six digits and the first one with seven. -/
theorem nodeName_identifies_pool :
    (∃ ds, nodeName "pool" (toString 2176782335) = "pool" ++ "-" ++ String.ofList ds ∧
        Base36.IsNumeral 6 2176782335 ds) ∧
      nodeName "pool" (toString 2176782335) ≠ nodeName "pool" (toString 2176782336) ∧
      nodeName "pool" (toString 35) < nodeName "pool" (toString 36) ∧
      nodeName "pool" (toString 2176782335) = "pool-zzzzzz" ∧
      nodeName "pool" (toString 2176782336) = "pool-1000000" := by
  obtain ⟨hnumeral, hdiffer, horder⟩ := nodeName_identifies "pool"
  refine ⟨hnumeral _ (by decide), hdiffer _ _ (by decide) (by decide) (by decide),
    (horder 35 36 (by decide) (by decide)).2 (by decide), ?_, ?_⟩
  · rw [nodeName_toString _ (by decide)]
    decide +kernel
  · rw [nodeName_toString _ (by decide)]
    decide +kernel

end TenantFleet
