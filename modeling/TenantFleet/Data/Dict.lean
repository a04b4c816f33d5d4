/-
# Sorted dictionaries

`Dict α` maps texts to values and keeps its entries in increasing order of the key, so two
dictionaries that answer every look-up alike are equal and every listing has one order.

* `Dict.get?_insert`, `Dict.get?_erase` : what a change does to the look-ups;
* `Dict.ext_get?` : a dictionary is determined by its look-ups.
-/

namespace TenantFleet

/-- A finite map from texts to values, listed in increasing order of the key. -/
structure Dict (α : Type) where
  /-- The entries in key order. -/
  entries : List (String × α)
  /-- Every key is smaller than those after it. -/
  sorted : entries.Pairwise (fun a b => a.1 < b.1)

namespace Dict

variable {α β : Type}

/-! ## Entry lists -/

/-- The value stored under `key` in a list of entries. -/
def lookup (key : String) : List (String × α) → Option α
  | [] => none
  | (k, v) :: rest => if k = key then some v else lookup key rest

/-- Puts `key` at its place, in the stead of an entry of the same key. -/
def insertEntry (key : String) (value : α) : List (String × α) → List (String × α)
  | [] => [(key, value)]
  | (k, v) :: rest =>
    if key < k then (key, value) :: (k, v) :: rest
    else if key = k then (key, value) :: rest
    else (k, v) :: insertEntry key value rest

/-- An entry of the list after an insertion is the new one or was there before. -/
theorem mem_insertEntry {key : String} {value : α} {l : List (String × α)} {e : String × α}
    (h : e ∈ insertEntry key value l) : e = (key, value) ∨ e ∈ l := by
  induction l with
  | nil => simp_all [insertEntry]
  | cons x rest ih =>
    obtain ⟨k, v⟩ := x
    simp only [insertEntry] at h
    split at h
    · simpa using h
    · split at h
      · simp only [List.mem_cons] at h ⊢
        exact h.imp_right Or.inr
      · simp only [List.mem_cons] at h ⊢
        rcases h with h | h
        · exact Or.inr (Or.inl h)
        · exact (ih h).imp_right Or.inr

/-- Insertion keeps the keys increasing. -/
theorem pairwise_insertEntry {key : String} {value : α} {l : List (String × α)}
    (h : l.Pairwise (fun a b => a.1 < b.1)) :
    (insertEntry key value l).Pairwise (fun a b => a.1 < b.1) := by
  induction l with
  | nil => simp [insertEntry]
  | cons x rest ih =>
    obtain ⟨k, v⟩ := x
    obtain ⟨hk, hrest⟩ := List.pairwise_cons.1 h
    simp only [insertEntry]
    split
    · rename_i hlt
      refine List.pairwise_cons.2 ⟨?_, h⟩
      intro e he
      rcases List.mem_cons.1 he with rfl | he
      · exact hlt
      · exact String.lt_trans hlt (hk e he)
    · rename_i hnlt
      split
      · rename_i heq
        subst heq
        exact List.pairwise_cons.2 ⟨hk, hrest⟩
      · rename_i hne
        refine List.pairwise_cons.2 ⟨?_, ih hrest⟩
        intro e he
        rcases mem_insertEntry he with rfl | he
        · exact Decidable.by_contra fun hn =>
            hne (String.le_antisymm (String.not_lt.1 hn) (String.not_lt.1 hnlt))
        · exact hk e he

/-- A look-up after an insertion sees the new value at its key and the old ones elsewhere. -/
theorem lookup_insertEntry (key key' : String) (value : α) (l : List (String × α))
    (h : l.Pairwise (fun a b => a.1 < b.1)) :
    lookup key' (insertEntry key value l) =
      if key = key' then some value else lookup key' l := by
  induction l with
  | nil => simp [insertEntry, lookup]
  | cons x rest ih =>
    obtain ⟨k, v⟩ := x
    obtain ⟨hk, hrest⟩ := List.pairwise_cons.1 h
    simp only [insertEntry]
    split
    · simp [lookup]
    · split
      · rename_i heq
        subst heq
        simp only [lookup]
        split <;> simp_all
      · rename_i hne
        simp only [lookup, ih hrest]
        split
        · rename_i hkk
          subst hkk
          simp [hne]
        · rfl

/-- A key below every key of the list is not found in it. -/
theorem lookup_eq_none_of_lt {key : String} {l : List (String × α)}
    (h : ∀ e ∈ l, key < e.1) : lookup key l = none := by
  induction l with
  | nil => rfl
  | cons x rest ih =>
    obtain ⟨k, v⟩ := x
    have hk : key < k := h (k, v) List.mem_cons_self
    simp only [lookup]
    rw [if_neg (by rintro rfl; exact String.lt_irrefl _ hk)]
    exact ih fun e he => h e (List.mem_cons_of_mem _ he)

/-- Sorted entry lists with the same look-ups are the same list. -/
theorem eq_of_lookup_eq {l l' : List (String × α)}
    (h : l.Pairwise (fun a b => a.1 < b.1)) (h' : l'.Pairwise (fun a b => a.1 < b.1))
    (hl : ∀ key, lookup key l = lookup key l') : l = l' := by
  induction l generalizing l' with
  | nil =>
    cases l' with
    | nil => rfl
    | cons x rest => exact absurd (hl x.1) (by simp [lookup])
  | cons x rest ih =>
    cases l' with
    | nil => exact absurd (hl x.1) (by simp [lookup])
    | cons y rest' =>
      obtain ⟨k, v⟩ := x
      obtain ⟨k', v'⟩ := y
      obtain ⟨hk, hrest⟩ := List.pairwise_cons.1 h
      obtain ⟨hk', hrest'⟩ := List.pairwise_cons.1 h'
      have hkk : k = k' := by
        refine String.le_antisymm (String.not_lt.1 fun hlt => ?_) (String.not_lt.1 fun hlt => ?_)
        · have := hl k'
          rw [lookup_eq_none_of_lt (l := (k, v) :: rest)] at this
          · simp [lookup] at this
          · intro e he
            rcases List.mem_cons.1 he with rfl | he
            · exact hlt
            · exact String.lt_trans hlt (hk e he)
        · have := (hl k).symm
          rw [lookup_eq_none_of_lt (l := (k', v') :: rest')] at this
          · simp [lookup] at this
          · intro e he
            rcases List.mem_cons.1 he with rfl | he
            · exact hlt
            · exact String.lt_trans hlt (hk' e he)
      subst hkk
      have hv : v = v' := by simpa [lookup] using hl k
      subst hv
      congr 1
      refine ih hrest hrest' fun key => ?_
      by_cases hkey : k = key
      · subst hkey
        rw [lookup_eq_none_of_lt hk, lookup_eq_none_of_lt hk']
      · simpa [lookup, hkey] using hl key

/-! ## Dictionaries -/

/-- The dictionary without entries. -/
def empty : Dict α := ⟨[], List.Pairwise.nil⟩

instance : Inhabited (Dict α) := ⟨empty⟩

instance : EmptyCollection (Dict α) := ⟨empty⟩

instance [DecidableEq α] : DecidableEq (Dict α) := fun a b =>
  if h : a.entries = b.entries then
    isTrue (by cases a; cases b; cases h; rfl)
  else
    isFalse fun e => h (e ▸ rfl)

/-- The value stored under `key`. -/
def get? (d : Dict α) (key : String) : Option α := lookup key d.entries

/-- Whether `key` has a value. -/
def contains (d : Dict α) (key : String) : Bool := (d.get? key).isSome

/-- Stores `value` under `key`, replacing what was there. -/
def insert (d : Dict α) (key : String) (value : α) : Dict α :=
  ⟨insertEntry key value d.entries, pairwise_insertEntry d.sorted⟩

/-- Forgets `key`. -/
def erase (d : Dict α) (key : String) : Dict α :=
  ⟨d.entries.filter (fun e => e.1 ≠ key), d.sorted.filter _⟩

/-- Applies `f` to the value of `key`, if it has one. -/
def modify (d : Dict α) (key : String) (f : α → α) : Dict α :=
  match d.get? key with
  | some v => d.insert key (f v)
  | none => d

/-- The keys in increasing order. -/
def keys (d : Dict α) : List String := d.entries.map Prod.fst

/-- The values in order of their keys. -/
def values (d : Dict α) : List α := d.entries.map Prod.snd

/-- Whether there is no entry. -/
def isEmpty (d : Dict α) : Bool := d.entries.isEmpty

/-- A dictionary of the given entries; of two with one key the later one stays. -/
def ofList (l : List (String × α)) : Dict α :=
  l.foldl (fun d e => d.insert e.1 e.2) empty

/-- The value under `key`, or a default. -/
def getD (d : Dict α) (key : String) (default : α) : α := (d.get? key).getD default

/-! ## Look-ups after a change -/

@[simp] theorem get?_empty (key : String) : (empty : Dict α).get? key = none := rfl

/-- An insertion changes the look-up of its key alone. -/
theorem get?_insert (d : Dict α) (key key' : String) (value : α) :
    (d.insert key value).get? key' = if key = key' then some value else d.get? key' :=
  lookup_insertEntry key key' value d.entries d.sorted

@[simp] theorem get?_insert_self (d : Dict α) (key : String) (value : α) :
    (d.insert key value).get? key = some value := by
  rw [get?_insert, if_pos rfl]

/-- An insertion leaves the other keys alone. -/
theorem get?_insert_of_ne (d : Dict α) {key key' : String} (value : α) (h : key ≠ key') :
    (d.insert key value).get? key' = d.get? key' := by
  rw [get?_insert, if_neg h]

/-- A look-up in a list without the entries of `key`. -/
theorem lookup_filter_ne (key key' : String) (l : List (String × α)) :
    lookup key' (l.filter (fun e => e.1 ≠ key)) = if key = key' then none else lookup key' l := by
  induction l with
  | nil => simp [lookup]
  | cons x rest ih =>
    obtain ⟨k, v⟩ := x
    by_cases hk : k = key
    · subst hk
      rw [List.filter_cons_of_neg (by simp), ih]
      by_cases h : k = key' <;> simp [lookup, h]
    · rw [List.filter_cons_of_pos (by simpa using hk)]
      simp only [lookup, ih]
      split
      · rename_i h
        subst h
        rw [if_neg (Ne.symm hk)]
      · rfl

/-- An erasure changes the look-up of its key alone. -/
theorem get?_erase (d : Dict α) (key key' : String) :
    (d.erase key).get? key' = if key = key' then none else d.get? key' :=
  lookup_filter_ne key key' d.entries

@[simp] theorem get?_erase_self (d : Dict α) (key : String) : (d.erase key).get? key = none := by
  rw [get?_erase, if_pos rfl]

/-- An erasure leaves the other keys alone. -/
theorem get?_erase_of_ne (d : Dict α) {key key' : String} (h : key ≠ key') :
    (d.erase key).get? key' = d.get? key' := by
  rw [get?_erase, if_neg h]

/-- Dictionaries that answer every look-up alike are equal. -/
theorem ext_get? {d e : Dict α} (h : ∀ key, d.get? key = e.get? key) : d = e := by
  obtain ⟨l, hl⟩ := d
  obtain ⟨l', hl'⟩ := e
  have : l = l' := eq_of_lookup_eq hl hl' h
  subst this
  rfl

end Dict

end TenantFleet
