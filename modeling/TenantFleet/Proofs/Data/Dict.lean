/-
# Entries and look-ups of dictionaries

What a dictionary lists is what its look-ups find, in the order of the keys. These are the facts
about `Dict` that statements about stores of resources and about documents rest on.
-/
import TenantFleet.Data.Table

namespace TenantFleet.Dict

variable {α β : Type}

/-! ## Listings -/

/-- A look-up in a sorted list finds exactly the entries of the list. -/
theorem lookup_eq_some_iff {l : List (String × α)} (h : l.Pairwise (fun a b => a.1 < b.1))
    {key : String} {v : α} : lookup key l = some v ↔ (key, v) ∈ l := by
  induction l with
  | nil => simp [lookup]
  | cons x rest ih =>
    obtain ⟨k, u⟩ := x
    obtain ⟨hk, hrest⟩ := List.pairwise_cons.1 h
    by_cases hkey : k = key
    · subst hkey
      have hnone : (k, v) ∉ rest := fun hm => String.lt_irrefl k (hk _ hm)
      simp [lookup, hnone, eq_comm]
    · simp [lookup, hkey, ih hrest, Ne.symm hkey]

/-- An entry is listed exactly when its key is found with its value. -/
theorem mem_entries {d : Dict α} {key : String} {v : α} :
    (key, v) ∈ d.entries ↔ d.get? key = some v :=
  (lookup_eq_some_iff d.sorted).symm

/-- A value is listed exactly when it is found under some key. -/
theorem mem_values {d : Dict α} {v : α} : v ∈ d.values ↔ ∃ key, d.get? key = some v := by
  simp only [values, List.mem_map, Prod.exists, mem_entries]
  constructor
  · rintro ⟨key, u, hu, rfl⟩
    exact ⟨key, hu⟩
  · rintro ⟨key, hv⟩
    exact ⟨key, v, hv, rfl⟩

/-- A dictionary that has kept the values of some keys lists what was listed for these. -/
theorem entries_eq_filter {d e : Dict α} (keep : String → Bool)
    (h : ∀ key v, e.get? key = some v ↔ d.get? key = some v ∧ keep key = true) :
    e.entries = d.entries.filter fun x => keep x.1 := by
  have hkept : e = ⟨d.entries.filter fun x => keep x.1, d.sorted.filter _⟩ := by
    refine ext_get? fun key => Option.ext fun v => ?_
    rw [h, ← mem_entries, ← mem_entries, List.mem_filter]
  rw [hkept]

/-- A dictionary with other values under the same keys lists these in the same order. -/
theorem entries_eq_map {d : Dict α} {e : Dict β} {f : String → α → β}
    (h : ∀ key, e.get? key = (d.get? key).map (f key)) : e.entries = d.entries.map fun x =>
    (x.1, f x.1 x.2) := by
  have hsorted : (d.entries.map fun x => (x.1, f x.1 x.2)).Pairwise fun a b => a.1 < b.1 :=
    List.pairwise_map.2 d.sorted
  have hmapped : e = ⟨d.entries.map fun x => (x.1, f x.1 x.2), hsorted⟩ := by
    refine ext_get? fun key => Option.ext fun v => ?_
    rw [h, ← mem_entries, Option.map_eq_some_iff]
    constructor
    · rintro ⟨u, hu, rfl⟩
      exact List.mem_map.2 ⟨(key, u), mem_entries.2 hu, rfl⟩
    · intro hmem
      obtain ⟨⟨key', u⟩, hu, heq⟩ := List.mem_map.1 hmem
      obtain ⟨rfl, rfl⟩ := Prod.mk.inj heq
      exact ⟨u, mem_entries.1 hu, rfl⟩
  rw [hmapped]

/-! ## Changes -/

/-- A modification changes the look-up of its key alone. -/
theorem get?_modify (d : Dict α) (key key' : String) (f : α → α) :
    (d.modify key f).get? key' = if key = key' then (d.get? key).map f else d.get? key' := by
  unfold modify
  cases hd : d.get? key with
  | none =>
    by_cases h : key = key'
    · rw [if_pos h, ← h, hd]
      rfl
    · rw [if_neg h]
  | some v => rw [get?_insert, Option.map_some]

/-- A modification that a view of the values does not show leaves the view of every look-up. -/
theorem map_get?_modify (d : Dict α) (key key' : String) {f : α → α} {view : α → β}
    (hf : ∀ v, view (f v) = view v) :
    ((d.modify key f).get? key').map view = (d.get? key').map view := by
  rw [get?_modify]
  split
  · rename_i h
    subst h
    cases d.get? key with
    | none => rfl
    | some v => simp [hf]
  · rfl

/-- Forgetting a key that has no value changes nothing. -/
theorem erase_of_missing {d : Dict α} {key : String} (h : d.get? key = none) : d.erase key = d := by
  refine ext_get? fun key' => ?_
  rw [get?_erase]
  split
  · rename_i hkey
    rw [← hkey, h]
  · rfl

/-- Forgetting keys one after the other changes the look-ups of these alone. -/
theorem get?_foldl_erase (keys : List String) (d : Dict α) (key : String) :
    (keys.foldl erase d).get? key = if key ∈ keys then none else d.get? key := by
  induction keys generalizing d with
  | nil => rfl
  | cons k keys ih =>
    rw [List.foldl_cons, ih, get?_erase]
    by_cases hkey : k = key
    · simp [hkey]
    · simp [hkey, Ne.symm hkey]

/-! ## Lists of entries -/

/-- What is found after entries were put in is one of them, or was there before. -/
theorem mem_of_get?_foldl {l : List (String × α)} {d : Dict α} {key : String} {v : α}
    (h : (l.foldl (fun d e => d.insert e.1 e.2) d).get? key = some v) :
    (key, v) ∈ l ∨ d.get? key = some v := by
  induction l generalizing d with
  | nil => exact Or.inr h
  | cons e rest ih =>
    rw [List.foldl_cons] at h
    rcases ih h with hrest | hd
    · exact Or.inl (List.mem_cons_of_mem e hrest)
    · rw [get?_insert] at hd
      split at hd
      · rename_i hkey
        left
        rw [← hkey, ← Option.some.inj hd]
        exact List.mem_cons_self
      · exact Or.inr hd

/-- What is found in a dictionary of a list is in the list. -/
theorem mem_of_get?_ofList {l : List (String × α)} {key : String} {v : α}
    (h : (ofList l).get? key = some v) : (key, v) ∈ l := by
  rcases mem_of_get?_foldl h with hl | hempty
  · exact hl
  · cases hempty

/-- Putting in entries of other keys leaves what is found under a key. -/
theorem get?_foldl_of_other {l : List (String × α)} {key : String} (h : key ∉ l.map Prod.fst)
    (d : Dict α) : (l.foldl (fun d e => d.insert e.1 e.2) d).get? key = d.get? key := by
  induction l generalizing d with
  | nil => rfl
  | cons e rest ih =>
    obtain ⟨hne, hrest⟩ := not_or.1 (mt List.mem_cons.2 h)
    rw [List.foldl_cons, ih hrest, get?_insert_of_ne d e.2 (Ne.symm hne)]

/-- What is found in a dictionary of a list with different keys are the entries of the list. -/
theorem get?_ofList_eq_some_iff {l : List (String × α)} (h : (l.map Prod.fst).Nodup)
    {key : String} {v : α} : (ofList l).get? key = some v ↔ (key, v) ∈ l := by
  refine ⟨mem_of_get?_ofList, fun hmem => ?_⟩
  obtain ⟨before, after, rfl⟩ := List.append_of_mem hmem
  rw [List.map_append, List.map_cons] at h
  have hafter := (List.nodup_cons.1 (List.nodup_append.1 h).2.1).1
  unfold ofList
  rw [List.foldl_append, List.foldl_cons, get?_foldl_of_other hafter, get?_insert_self]

/-- A dictionary of a list with other values has these under the same keys. -/
theorem get?_ofList_map (l : List (String × α)) (f : α → β) (key : String) :
    (ofList (l.map fun x => (x.1, f x.2))).get? key = ((ofList l).get? key).map f := by
  have hfold : ∀ (l : List (String × α)) (d : Dict α) (e : Dict β),
      (∀ key, e.get? key = (d.get? key).map f) → ∀ key,
      ((l.map fun x => (x.1, f x.2)).foldl (fun e x => e.insert x.1 x.2) e).get? key =
        ((l.foldl (fun d x => d.insert x.1 x.2) d).get? key).map f := by
    intro l
    induction l with
    | nil => exact fun _ _ h => h
    | cons x rest ih =>
      intro d e h
      rw [List.map_cons, List.foldl_cons, List.foldl_cons]
      refine ih _ _ fun key => ?_
      rw [get?_insert, get?_insert, h]
      split <;> rfl
  exact hfold l .empty .empty (fun _ => rfl) key

/-! ## Overlays -/

/-- The first dictionary with the entries of the second one put in. -/
def overlay (d e : Dict α) : Dict α := e.entries.foldl (fun d x => d.insert x.1 x.2) d

/-- What is found after sorted entries were put in is what they have, or was there before. -/
theorem get?_foldl_of_sorted {l : List (String × α)} (hsorted : l.Pairwise fun a b => a.1 < b.1)
    (d : Dict α) (key : String) :
    (l.foldl (fun d x => d.insert x.1 x.2) d).get? key = (lookup key l).or (d.get? key) := by
  induction l generalizing d with
  | nil => rfl
  | cons x rest ih =>
    obtain ⟨hx, hrest⟩ := List.pairwise_cons.1 hsorted
    have hlookup : lookup key (x :: rest) = if x.1 = key then some x.2 else lookup key rest := rfl
    rw [List.foldl_cons, ih hrest, get?_insert, hlookup]
    by_cases hkey : x.1 = key
    · -- No later entry has this key, so this one is not put over.
      have hnone : lookup key rest = none := lookup_eq_none_of_lt (by rw [← hkey]; exact hx)
      rw [if_pos hkey, if_pos hkey, hnone]
      rfl
    · rw [if_neg hkey, if_neg hkey]

/-- A look-up finds what was put in, and else what was there. -/
theorem get?_overlay (d e : Dict α) (key : String) :
    (d.overlay e).get? key = (e.get? key).or (d.get? key) :=
  get?_foldl_of_sorted e.sorted d key

/-- An overlay is what was put in exactly when nothing else was there. -/
theorem overlay_eq_iff (d e : Dict α) :
    d.overlay e = e ↔ ∀ key, (d.get? key).isSome = true → (e.get? key).isSome = true := by
  constructor
  · intro h key hkey
    rw [← h, get?_overlay]
    cases e.get? key with
    | some v => rfl
    | none => exact hkey
  · intro h
    refine ext_get? fun key => ?_
    rw [get?_overlay]
    cases he : e.get? key with
    | some v => rfl
    | none =>
      cases hd : d.get? key with
      | none => rfl
      | some v =>
        have hsome := h key (by rw [hd]; rfl)
        rw [he] at hsome
        cases hsome

end TenantFleet.Dict

namespace TenantFleet.Table

variable {α : Type}

/-! ## Tables -/

/-- What is found after two keys were forgotten was there before, under other keys. -/
theorem at?_remove {t : Table α} {a b a' b' : String} {v : α} :
    at? (remove t a b) a' b' = some v ↔ at? t a' b' = some v ∧ ¬ (a = a' ∧ b = b') := by
  have hrow : row (remove t a b) a' = if a = a' then (row t a').erase b else row t a' := by
    unfold row remove Dict.getD
    rw [Dict.get?_modify]
    split
    · rename_i h
      subst h
      cases t.get? a <;> rfl
    · rfl
  unfold at?
  rw [hrow]
  by_cases ha : a = a'
  · rw [if_pos ha]
    by_cases hb : b = b'
    · subst hb
      simp [ha]
    · rw [Dict.get?_erase_of_ne _ hb]
      simp [hb]
  · rw [if_neg ha]
    simp [ha]

/-- A modification under two keys that a view of the values does not show leaves the view of every
look-up. -/
theorem map_at?_modify (t : Table α) (a b a' b' : String) {β : Type} {f : α → α} {view : α → β}
    (hf : ∀ v, view (f v) = view v) :
    (at? (Dict.modify t a fun r => r.modify b f) a' b').map view = (at? t a' b').map view := by
  unfold at? row Dict.getD
  rw [Dict.get?_modify]
  split
  · rename_i h
    subst h
    cases t.get? a with
    | none => rfl
    | some r => exact Dict.map_get?_modify r b b' hf
  · rfl

end TenantFleet.Table
