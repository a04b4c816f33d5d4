/-
# Values that are read again as they were

A value that was read of a document is written as another one, and that is read as the same value
but for what is not written, in whatever order its members are sent. There is a lemma for each way
to read and write values; a record is read again when its members are, and these are told by the
values under their names.

* `Stable` : that values are read again as they were;
* `stable_any`, `stable_texts`, `Stable.list` : plain values, kept documents, and lists of values;
* `Back`, `Backs` : that the members of a record are read again;
* `Stable.record` : records, with and without members that are not known.
-/
import TenantFleet.Proofs.Json.Arranged
import TenantFleet.Proofs.Json.Form

namespace TenantFleet

open Json (Arrangement Holds InRange present valuesOf writtenMembers)
open Reader (Members)

/-- Whether values that were read are read again when they are written, but for what is cleared, of
sorted documents. These are nested no deeper than the document that was read, or than the given
depth. -/
structure Stable {α : Type} (depth : Nat) (read : Reader α) (write : α → Json)
    (clear : α → α) : Prop where
  /-- They are read again, whatever the order of members. -/
  again : ∀ {x : Json.Written} {v : α} {y : Json}, read x = some v → y.Arrangement (write v) →
    read y.written = some (clear v)
  /-- Only null is written as null. -/
  eq_null : ∀ {x : Json.Written} {v : α}, read x = some v → write v = .null → x = .null
  /-- Their documents are sorted. -/
  sorted : ∀ {x : Json.Written} {v : α}, read x = some v → (write v).Sorted
  /-- Their documents fit. -/
  fits : ∀ {x : Json.Written} {v : α} {k : Nat}, read x = some v → x.Fits k → depth ≤ k →
    (write v).written.Fits k

variable {α : Type} {depth : Nat} {read : Reader α} {write : α → Json} {clear : α → α}
  {ms ms' : Members} {name : String} {names : List String}

/-! ## Plain values -/

theorem stable_text : Stable depth Reader.text .str id where
  again := fun _ hy => by
    rw [hy.eq_of_plain nofun nofun]
    rfl
  eq_null := nofun
  sorted := fun _ => .str _
  fits := fun _ _ _ => .str _

theorem stable_bool : Stable depth Reader.bool .bool id where
  again := fun _ hy => by
    rw [hy.eq_of_plain nofun nofun]
    rfl
  eq_null := nofun
  sorted := fun _ => .bool _
  fits := fun _ _ _ => .bool _

/-- Integers within bounds that 64 bits hold. -/
theorem stable_int {lo hi : Int} (hlo : InRange lo) (hhi : InRange hi) :
    Stable depth (Reader.intIn lo hi) .int id := by
  have hread {x : Json.Written} {n : Int} (h : Reader.intIn lo hi x = some n) :
      lo ≤ n ∧ n ≤ hi := by
    unfold Reader.intIn at h
    split at h
    · split at h
      · rename_i hbounds
        obtain rfl := Option.some.inj h
        exact hbounds
      · cases h
    · cases h
  constructor
  case again =>
    intro x n y h hy
    rw [hy.eq_of_plain nofun nofun]
    exact if_pos (hread h)
  case eq_null => exact nofun
  case sorted => exact fun _ => .num _
  case fits =>
    intro x n k h _ _
    obtain ⟨hlow, hhigh⟩ := hread h
    exact .int ⟨Int.le_trans hlo.1 hlow, Int.lt_of_le_of_lt hhigh hhi.2⟩

theorem stable_int32 : Stable depth Reader.int32 .int id := stable_int (by decide) (by decide)

theorem stable_int64 : Stable depth Reader.int64 .int id := stable_int (by decide) (by decide)

/-- What is kept of a document is its canonical form. -/
theorem any_written (y : Json) : Reader.any y.written = some y.canonical := by
  unfold Reader.any
  rw [Json.value?_written]
  rfl

theorem stable_any : Stable depth Reader.any id id := by
  have hread {x : Json.Written} {v : Json} (h : Reader.any x = some v) :
      ∃ y : Json, y.written = x ∧ v = y.canonical := by
    obtain ⟨y, hy, rfl⟩ := Option.map_eq_some_iff.1 h
    exact ⟨y, Json.written_of_value? x hy, rfl⟩
  constructor
  case again =>
    intro x v y _ hy
    rw [any_written, hy.canonical_eq]
  case eq_null =>
    intro x v h hnull
    obtain ⟨y, rfl, rfl⟩ := hread h
    cases y <;> cases hnull
    rfl
  case sorted =>
    intro x v h
    obtain ⟨y, -, rfl⟩ := hread h
    exact Json.sorted_canonical y
  case fits =>
    intro x v k h hx _
    obtain ⟨y, rfl, rfl⟩ := hread h
    exact Json.fits_canonical y hx

/-- The name of a way to make content; a name that is not known is read again as one that is not. -/
theorem stable_option : Stable depth CreateOption.read CreateOption.toJson id where
  again := fun _ hy => by
    rw [hy.eq_of_plain nofun nofun]
    exact congrArg some (CreateOption.ofName_name _)
  eq_null := nofun
  sorted := fun _ => .str _
  fits := fun _ _ _ => .str _

/-! ## Dictionaries and lists -/

/-- An object is read as a dictionary when its values are read as those of the dictionary. -/
theorem Reader.dict_of_values {d : Dict α}
    (h : ∀ key, (values ms key).map read = ((d.get? key).map some).toList) :
    dict read (.obj ms) = some d := by
  have hfound : ∀ m ∈ ms, (read m.2).isSome = true := by
    intro m hm
    have hvalue : read m.2 ∈ (values ms m.1).map read :=
      List.mem_map.2 ⟨m.2, List.mem_map.2 ⟨m, List.mem_filter.2 ⟨hm, decide_eq_true rfl⟩, rfl⟩, rfl⟩
    rw [h, Option.mem_toList] at hvalue
    obtain ⟨a, -, ha⟩ := Option.map_eq_some_iff.1 hvalue
    rw [← ha]
    rfl
  obtain ⟨e, he⟩ := Option.isSome_iff_exists.1 (dict_isSome_iff.2 hfound)
  have hsame : e = d := by
    refine Dict.ext_get? fun key => ?_
    have hkey := h key
    rw [get?_of_dict he]
    cases hget : d.get? key with
    | none =>
      rw [hget] at hkey
      rw [List.map_eq_nil_iff.1 hkey]
      rfl
    | some a =>
      rw [hget] at hkey
      obtain ⟨w, hw, hread⟩ := List.map_eq_singleton_iff.1 hkey
      rw [hw]
      exact hread
  rw [← hsame]
  exact he

theorem stable_texts : Stable (depth + 1) Reader.texts .ofTexts id where
  again := by
    intro x d y _ hy
    obtain ⟨ms, rfl, -⟩ := hy.exists_obj
    refine Reader.dict_of_values fun key => ?_
    have hholds := hy.holds_ofDict key
    show _ = ((d.get? key).map some).toList
    generalize d.get? key = found at hholds
    cases found with
    | none =>
      cases hholds with
      | missing h =>
        rw [h]
        rfl
    | some t =>
      cases hholds with
      | found h ht =>
        rw [h, ht.eq_of_plain nofun nofun]
        rfl
  eq_null := nofun
  -- The entries of a dictionary are sorted by name.
  sorted := by
    intro x d _
    refine .obj (List.pairwise_map.2 d.sorted) fun m hm => ?_
    obtain ⟨e, -, rfl⟩ := List.mem_map.1 hm
    exact .str e.2
  fits := by
    intro x d k _ _ hk
    obtain ⟨j, rfl⟩ := Nat.exists_eq_add_of_le' (Nat.le_trans (Nat.le_add_left 1 depth) hk)
    refine Json.fits_obj_iff.2 fun m hm => ?_
    obtain ⟨e, -, rfl⟩ := List.mem_map.1 hm
    exact .str e.2

/-- Items that are read are read of items. -/
theorem Reader.exists_of_mem_mapM {l : List Json.Written} {vs : List α} (h : l.mapM read = some vs)
    {v : α} (hv : v ∈ vs) : ∃ x ∈ l, read x = some v := by
  induction l generalizing vs with
  | nil =>
    obtain rfl := Option.some.inj h
    cases hv
  | cons x rest ih =>
    rw [List.mapM_cons] at h
    obtain ⟨w, hw, h⟩ := Option.bind_eq_some_iff.1 h
    obtain ⟨others, hothers, h⟩ := Option.bind_eq_some_iff.1 h
    obtain rfl := Option.some.inj h
    rcases List.mem_cons.1 hv with rfl | hv
    · exact ⟨x, List.mem_cons_self, hw⟩
    · obtain ⟨y, hy, hread⟩ := ih hothers hv
      exact ⟨y, List.mem_cons_of_mem x hy, hread⟩

/-- A list that is read is a list of items. -/
theorem Reader.mapM_of_list {x : Json.Written} {vs : List α} (h : list read x = some vs) :
    ∃ items, x = .arr items ∧ items.mapM read = some vs := by
  unfold list at h
  split at h
  · exact ⟨_, rfl, h⟩
  · cases h

/-- Values one by one. -/
theorem Stable.list (s : Stable depth read write clear) :
    Stable (depth + 1) (Reader.list read) (fun l => .arr (l.map write)) (List.map clear) where
  again := by
    intro x vs y h hy
    obtain ⟨items, -, hitems⟩ := Reader.mapM_of_list h
    have hagain : ∀ v ∈ vs, ∀ z : Json, z.Arrangement (write v) → read z.written = some (clear v) :=
      fun v hv z hz => by
      obtain ⟨w, -, hw⟩ := Reader.exists_of_mem_mapM hitems hv
      exact s.again hw hz
    obtain ⟨items', rfl, hcanonical, hdistinct⟩ := hy.exists_arr
    clear h hitems hy
    show (Json.writtenItems items').mapM read = _
    induction vs generalizing items' with
    | nil =>
      rw [List.map_eq_nil_iff.1 hcanonical]
      rfl
    | cons v rest ih =>
      obtain ⟨z, items', rfl, hz, hrest⟩ := List.map_eq_cons_iff.1 hcanonical
      obtain ⟨hdistinct, hdistincts⟩ := List.forall_mem_cons.1 hdistinct
      obtain ⟨hv, hvs⟩ := List.forall_mem_cons.1 hagain
      rw [Json.writtenItems, List.mapM_cons, hv z ⟨hdistinct, hz⟩, ih hvs items' hrest hdistincts]
      rfl
  eq_null := nofun
  sorted := by
    intro x vs h
    obtain ⟨items, -, hitems⟩ := Reader.mapM_of_list h
    refine .arr fun y hy => ?_
    obtain ⟨v, hv, rfl⟩ := List.mem_map.1 hy
    obtain ⟨z, -, hz⟩ := Reader.exists_of_mem_mapM hitems hv
    exact s.sorted hz
  fits := by
    intro x vs k h hx hk
    obtain ⟨items, rfl, hitems⟩ := Reader.mapM_of_list h
    cases hx with
    | arr hx =>
      refine Json.fits_arr_iff.2 fun y hy => ?_
      obtain ⟨v, hv, rfl⟩ := List.mem_map.1 hy
      obtain ⟨z, hmem, hz⟩ := Reader.exists_of_mem_mapM hitems hv
      exact s.fits hz (hx z hmem) (Nat.le_of_succ_le_succ hk)

theorem stable_textList : Stable (depth + 1) (Reader.list Reader.text) .ofTextList id := by
  have hlist : Stable (depth + 1) (Reader.list Reader.text) .ofTextList (List.map id) :=
    stable_text.list
  rwa [List.map_id_fun] at hlist

/-! ## Members of records -/

/-- Whether a member of a record is read again when it is written, as `again` says. -/
structure Back (depth : Nat) (ms : Members) (name : String) (sent : Option Json)
    (again : Members → Prop) : Prop where
  /-- Its document is sorted. -/
  sorted : ∀ y ∈ sent, y.Sorted
  /-- Its document fits. -/
  fits : ∀ k, depth ≤ k → (∀ m ∈ ms, m.2.Fits k) → ∀ y ∈ sent, y.written.Fits k
  /-- It is read of any members where it is found under its name. -/
  again : ∀ ms', Holds ms' name sent → again ms'

/-- A member that is not written. -/
theorem back_unsent (read : Reader α) :
    Back depth ms name none fun ms' => Reader.optional read ms' name = some none := by
  refine ⟨nofun, nofun, fun ms' hholds => ?_⟩
  cases hholds with
  | missing h =>
    unfold Reader.optional
    rw [h]
    rfl

/-- What is found under a name is the value of a member. -/
theorem Reader.mem_of_find? {x : Json.Written} (h : find? ms name = some x) :
    ∃ m ∈ ms, m.2 = x := by
  obtain ⟨m, hm, rfl⟩ := Option.map_eq_some_iff.1 h
  exact ⟨m, List.mem_of_find?_eq_some hm, rfl⟩

namespace Stable

/-- A member with a value that was read of one of the members. -/
theorem back {x : Json.Written} {v : α} (s : Stable depth read write clear)
    (hread : read x = some v)
    (hx : ∀ k, depth ≤ k → (∀ m ∈ ms, m.2.Fits k) → x.Fits k) {again : Members → Prop}
    (hagain : ∀ ms' y, Reader.values ms' name = [Json.written y] → y.Arrangement (write v) →
      read y.written = some (clear v) → again ms') :
    Back depth ms name (some (write v)) again where
  sorted := by
    rintro y ⟨⟩
    exact s.sorted hread
  fits := by
    rintro k hk hms y ⟨⟩
    exact s.fits hread (hx k hk hms) hk
  again := by
    intro ms' hholds
    cases hholds with
    | found h hy => exact hagain ms' _ h hy (s.again hread hy)

theorem required {v : α} (s : Stable depth read write clear)
    (h : Reader.required read ms name = some v) :
    Back depth ms name (some (write v)) fun ms' =>
      Reader.required read ms' name = some (clear v) := by
  obtain ⟨x, hx, hread⟩ := Option.bind_eq_some_iff.1 h
  obtain ⟨m, hm, rfl⟩ := Reader.mem_of_find? hx
  refine s.back hread (fun k _ hms => hms m hm) fun ms' y hms' _ hy => ?_
  unfold Reader.required
  rw [Reader.find?_eq_head?, hms']
  exact hy

theorem optional {v : Option α} (s : Stable depth read write clear)
    (h : Reader.optional read ms name = some v) :
    Back depth ms name (v.map write) fun ms' =>
      Reader.optional read ms' name = some (v.map clear) := by
  rcases Reader.optional_cases h with ⟨-, rfl⟩ | ⟨-, rfl⟩ | ⟨x, v, hx, hnull, hread, rfl⟩
  · exact back_unsent read
  · exact back_unsent read
  · obtain ⟨m, hm, rfl⟩ := Reader.mem_of_find? hx
    refine s.back hread (fun k _ hms => hms m hm) fun ms' y hms' hy hagain => ?_
    -- Null would be read as a missing value, but only null is written so.
    have hwritten : y ≠ .null := by
      rintro rfl
      exact hnull (s.eq_null hread hy.canonical_eq.symm)
    rw [Reader.optional_of_values hms']
    unfold Reader.nullable
    split
    · rename_i heq
      cases y <;> first | exact absurd rfl hwritten | cases heq
    · rw [hagain]
      rfl

/-- A member with a default that could have been read of a document. -/
theorem defaulted {v a : α} {x₀ : Json.Written} (s : Stable depth read write clear)
    (h : Reader.defaulted read a ms name = some v) (hfits : x₀.Fits depth)
    (hdefault : read x₀ = some a) :
    Back depth ms name (some (write v)) fun ms' =>
      Reader.defaulted read a ms' name = some (clear v) := by
  have hagain (ms' : Members) (y : Json) (hms' : Reader.values ms' name = [y.written])
      (_ : y.Arrangement (write v)) (hy : read y.written = some (clear v)) :
      Reader.defaulted read a ms' name = some (clear v) := by
    unfold Reader.defaulted
    rw [Reader.find?_eq_head?, hms']
    exact hy
  unfold Reader.defaulted at h
  split at h
  · -- A default is written like a value that was read of its document.
    obtain rfl := Option.some.inj h
    exact s.back hdefault (fun k hk _ => hfits.mono hk) hagain
  · rename_i x hx
    obtain ⟨m, hm, rfl⟩ := Reader.mem_of_find? hx
    exact s.back h (fun k _ hms => hms m hm) hagain

/-- A document that is kept as it stands, and may be missing. -/
theorem kept {v : Option Json} (h : Reader.optional Reader.any ms name = some v) :
    Back depth ms name v fun ms' => Reader.optional Reader.any ms' name = some v := by
  have hoptional : Back depth ms name (v.map id) fun ms' =>
      Reader.optional Reader.any ms' name = some (v.map id) :=
    stable_any.optional h
  rwa [Option.map_id] at hoptional

/-- A list of texts that is left out when it is empty. -/
theorem nonempty {l : List String}
    (h : Reader.defaulted (Reader.list Reader.text) [] ms name = some l) :
    Back (depth + 1) ms name (if l.isEmpty then none else some (.ofTextList l)) fun ms' =>
      Reader.defaulted (Reader.list Reader.text) [] ms' name = some l := by
  cases l with
  | nil =>
    refine ⟨nofun, nofun, fun ms' hholds => ?_⟩
    cases hholds with
    | missing h =>
      unfold Reader.defaulted
      rw [Reader.find?_eq_head?, h]
      rfl
  | cons t rest => exact stable_textList.defaulted h Json.Written.fits_arr_nil rfl

end Stable

/-- Whether the known members of a record are read again when they are written, as `again` says. -/
structure Backs (depth : Nat) (ms : Members) (known : List (String × Option Json))
    (again : Members → Prop) : Prop where
  /-- Their documents are sorted. -/
  sorted : ∀ m ∈ known, ∀ y ∈ m.2, y.Sorted
  /-- Their documents fit. -/
  fits : ∀ k, depth ≤ k → (∀ m ∈ ms, m.2.Fits k) → ∀ m ∈ known, ∀ y ∈ m.2, y.written.Fits k
  /-- They are read of any members where they are found under their names. -/
  again : ∀ ms', (∀ m ∈ known, Holds ms' m.1 m.2) → again ms'

theorem Backs.nil : Backs depth ms [] fun _ => True where
  sorted := fun _ hm => absurd hm List.not_mem_nil
  fits := fun _ _ _ _ hm => absurd hm List.not_mem_nil
  again := fun _ _ => trivial

theorem Back.cons {sent : Option Json} {again : Members → Prop}
    {known : List (String × Option Json)}
    {again' : Members → Prop} (h : Back depth ms name sent again)
    (hrest : Backs depth ms known again') :
    Backs depth ms ((name, sent) :: known) fun ms' => again ms' ∧ again' ms' where
  sorted := List.forall_mem_cons.2 ⟨h.sorted, hrest.sorted⟩
  fits := fun k hk hms => List.forall_mem_cons.2 ⟨h.fits k hk hms, hrest.fits k hk hms⟩
  again := fun ms' hms' =>
    ⟨h.again ms' (List.forall_mem_cons.1 hms').1, hrest.again ms' (List.forall_mem_cons.1 hms').2⟩

/-! ## Members that are not known -/

section Besides

variable {others : Bool} {extra : Dict Json}

/-- A member that is kept besides the known ones was read of one of the members. -/
theorem exists_of_besides (h : Form.besides others names ms = some extra) {key : String} {y : Json}
    (hy : extra.get? key = some y) : ∃ m ∈ ms, Reader.any m.2 = some y := by
  cases others with
  | false =>
    obtain rfl := Option.some.inj h
    cases hy
  | true =>
    have hdict : Reader.dict Reader.any (.obj (ms.filter fun m => m.1 ∉ names)) = some extra := h
    rw [Reader.get?_of_dict hdict] at hy
    obtain ⟨x, hx, hany⟩ := Option.bind_eq_some_iff.1 hy
    obtain ⟨m, hm, rfl⟩ := List.mem_map.1 (List.mem_of_getLast? hx)
    exact ⟨m, (List.mem_filter.1 (List.mem_filter.1 hm).1).1, hany⟩

/-- What was kept besides the known members is kept again. -/
theorem besides_again (h : Form.besides others names ms = some extra)
    (hms' : ∀ key, key ∉ names → Holds ms' key (extra.get? key)) :
    Form.besides others names ms' = some extra := by
  cases others with
  | false => exact h
  | true =>
    refine Reader.dict_of_values fun key => ?_
    rw [Reader.values_others]
    split
    · rename_i hname
      rw [Form.get?_besides h hname]
      rfl
    · rename_i hname
      have hholds := hms' key hname
      generalize extra.get? key = found at hholds
      cases hholds with
      | missing hvalues =>
        rw [hvalues]
        rfl
      | found hvalues hy =>
        rw [hvalues, List.map_singleton, any_written, hy.canonical_eq]
        rfl

end Besides

/-! ## Records -/

/-- Under the name of a known member stands that, and under other names what is kept besides. -/
theorem get?_known {known : List (String × Option Json)} {extra : Dict Json}
    (hnames : (known.map Prod.fst).Nodup) (hextra : ∀ m ∈ known, extra.get? m.1 = none) :
    (∀ m ∈ known, (Dict.ofList (extra.entries ++ present known)).get? m.1 = m.2) ∧
      ∀ key, key ∉ known.map Prod.fst →
      (Dict.ofList (extra.entries ++ present known)).get? key = extra.get? key := by
  have hget (key : String) : (Dict.ofList (extra.entries ++ present known)).get? key =
      (valuesOf (present known) key).getLast?.or (extra.get? key) := by
    rw [Dict.get?_ofList, Json.valuesOf_append, List.getLast?_append,
      Dict.getLast?_valuesOf_entries]
  refine ⟨fun m hm => ?_, fun key hkey => ?_⟩
  · rw [hget, hextra m hm, Option.or_none]
    clear hget hextra
    induction known with
    | nil => cases hm
    | cons n rest ih =>
      obtain ⟨key, x⟩ := n
      obtain ⟨hkey, hrest⟩ := List.nodup_cons.1 hnames
      rw [Json.valuesOf_present_cons]
      rcases List.mem_cons.1 hm with rfl | hm
      · rw [if_pos rfl, Json.valuesOf_present_of_not_mem hkey, List.append_nil]
        cases x <;> rfl
      · have hne : key ≠ m.1 := fun heq => hkey (heq ▸ List.mem_map.2 ⟨m, hm, rfl⟩)
        rw [if_neg hne]
        exact ih hrest hm
  · rw [hget, Json.valuesOf_present_of_not_mem hkey]
    rfl

/-- The known members and what is kept besides have different names. -/
theorem nodup_sent {known : List (String × Option Json)} {extra : Dict Json}
    (hnames : (known.map Prod.fst).Nodup)
    (hextra : ∀ m ∈ known, extra.get? m.1 = none) :
    ((extra.entries ++ present known).map Prod.fst).Nodup := by
  have hpresent : ((present known).map Prod.fst).Sublist (known.map Prod.fst) := by
    clear hnames hextra
    induction known with
    | nil => exact .slnil
    | cons m rest ih =>
      obtain ⟨name, sent⟩ := m
      cases sent with
      | none => exact ih.cons name
      | some x => exact ih.cons_cons name
  rw [List.map_append, List.nodup_append]
  refine ⟨nodup_of_sorted extra.sorted, hnames.sublist hpresent, fun name hname key hkey => ?_⟩
  rintro rfl
  obtain ⟨m, hm, rfl⟩ := List.mem_map.1 hname
  obtain ⟨n, hn, heq⟩ := List.mem_map.1 (hpresent.subset hkey)
  have hnone := hextra n hn
  rw [heq, Dict.mem_entries.1 hm] at hnone
  cases hnone

/-- What is written of a record is a known member, or kept besides. -/
theorem mem_known_or_extra {known : List (String × Option Json)} {extra : Dict Json}
    {m : String × Json} (hm : m ∈ (Dict.ofList (extra.entries ++ present known)).entries) :
    (∃ n ∈ known, m.2 ∈ n.2) ∨ extra.get? m.1 = some m.2 := by
  rcases List.mem_append.1 (Dict.mem_of_get?_ofList (Dict.mem_entries.1 hm)) with hextra | hknown
  · exact Or.inr (Dict.mem_entries.1 hextra)
  · obtain ⟨n, hn, heq⟩ := List.mem_filterMap.1 hknown
    obtain ⟨y, hy, hpair⟩ := Option.map_eq_some_iff.1 heq
    obtain ⟨-, rfl⟩ := Prod.mk.inj hpair
    exact Or.inl ⟨n, hn, hy⟩

/-- The members of a record are parts of the document that it was read of. -/
theorem fits_of_members {x : Json.Written} (h : Reader.members names x = some ms) {k : Nat}
    (hx : x.Fits (k + 1)) :
    ∀ m ∈ ms, m.2.Fits k := by
  rcases Reader.members_cases h with ⟨rfl, -⟩ | ⟨items, rfl, rfl⟩
  · cases hx with
    | obj hms => exact hms
  · cases hx with
    | arr hitems => exact fun m hm => hitems m.2 (List.of_mem_zip hm).2

/-- A record is read again when its known members are, and those that are kept besides them. It may
have to be an object, or may be a list as well. -/
theorem Stable.record {find : Reader Members} {readFrom : Members → Option α}
    {known : α → List (String × Option Json)} {extra : α → Dict Json} (others : Bool)
    (hfind : find = Reader.members names ∨ find = Reader.namedMembers names) (hnodup : names.Nodup)
    (hknown : ∀ v, (known v).map Prod.fst = names)
    (hparts : ∀ ms v, readFrom ms = some v → Form.besides others names ms = some (extra v) ∧
      ∃ again, Backs depth ms (known v) again ∧ ∀ ms', again ms' →
        Form.besides others names ms' = some (extra v) → readFrom ms' = some (clear v)) :
    Stable (depth + 1) (fun x => (find x).bind readFrom)
      (fun v => .object ((extra v).entries ++ present (known v))) clear := by
  have hmembers {x : Json.Written} {ms : Members} (h : find x = some ms) :
      Reader.members names x = some ms := by
    rcases hfind with rfl | rfl
    · exact h
    · exact Reader.members_of_namedMembers h
  have hobj {ms : Members} (h : Reader.unique names ms = true) : find (.obj ms) = some ms := by
    rcases hfind with rfl | rfl
    · exact if_pos h
    · exact if_pos h
  constructor
  case again =>
    intro x v y h hy
    obtain ⟨ms, -, hread⟩ := Option.bind_eq_some_iff.1 h
    obtain ⟨hextra, again, hbacks, hagain⟩ := hparts ms v hread
    have hnone : ∀ m ∈ known v, (extra v).get? m.1 = none := fun m hm =>
      Form.get?_besides hextra (hknown v ▸ List.mem_map.2 ⟨m, hm, rfl⟩)
    obtain ⟨hsent, hbesides⟩ := get?_known (by rw [hknown]; exact hnodup) hnone
    rw [hknown] at hbesides
    obtain ⟨ms', rfl, -⟩ := hy.exists_obj
    have hholds (key : String) := hy.holds key
    simp only [Dict.getLast?_valuesOf_entries] at hholds
    show (find (.obj (writtenMembers ms'))).bind readFrom = _
    rw [hobj (Reader.unique_iff.2 fun key _ => (hholds key).length_le), Option.bind_some]
    -- Known members are found as they were sent, and under other names what was kept besides them.
    refine hagain _ (hbacks.again _ fun m hm => ?_) (besides_again hextra fun key hkey => ?_)
    · rw [← hsent m hm]
      exact hholds m.1
    · rw [← hbesides key hkey]
      exact hholds key
  case eq_null => exact nofun
  case sorted =>
    intro x v h
    obtain ⟨ms, -, hread⟩ := Option.bind_eq_some_iff.1 h
    obtain ⟨hextra, again, hbacks, -⟩ := hparts ms v hread
    have hstable : Stable 0 Reader.any id id := stable_any
    refine .obj (Dict.sorted _) fun m hm => ?_
    rcases mem_known_or_extra hm with ⟨n, hn, hy⟩ | hy
    · exact hbacks.sorted n hn m.2 hy
    · obtain ⟨y, -, hany⟩ := exists_of_besides hextra hy
      exact hstable.sorted hany
  case fits =>
    intro x v k h hx hk
    obtain ⟨ms, hms, hread⟩ := Option.bind_eq_some_iff.1 h
    obtain ⟨hextra, again, hbacks, -⟩ := hparts ms v hread
    have hstable : Stable 0 Reader.any id id := stable_any
    obtain ⟨j, rfl⟩ := Nat.exists_eq_add_of_le' (Nat.le_trans (Nat.le_add_left 1 depth) hk)
    have hparts := fits_of_members (hmembers hms) hx
    refine Json.fits_obj_iff.2 fun m hm => ?_
    rcases mem_known_or_extra hm with ⟨n, hn, hy⟩ | hy
    · exact hbacks.fits j (Nat.le_of_succ_le_succ hk) hparts n hn m.2 hy
    · obtain ⟨y, hy, hany⟩ := exists_of_besides hextra hy
      exact hstable.fits hany (hparts y hy) (Nat.zero_le j)

/-- A record that forgets the members that are not known. -/
theorem Stable.closed {readFrom : Members → Option α} {known : α → List (String × Option Json)}
    (hnodup : names.Nodup) (hknown : ∀ v, (known v).map Prod.fst = names)
    (hparts : ∀ ms v, readFrom ms = some v →
      ∃ again, Backs depth ms (known v) again ∧ ∀ ms', again ms' → readFrom ms' = some (clear v)) :
    Stable (depth + 1) (fun x => (Reader.members names x).bind readFrom)
      (fun v => .record (known v)) clear := by
  have hrecord : Stable (depth + 1) (fun x => (Reader.members names x).bind readFrom)
      (fun v => .object ((Dict.empty : Dict Json).entries ++ present (known v))) clear := by
    refine .record false (Or.inl rfl) hnodup hknown fun ms v h => ⟨rfl, ?_⟩
    obtain ⟨again, hbacks, hagain⟩ := hparts ms v h
    exact ⟨again, hbacks, fun ms' hms' _ => hagain ms' hms'⟩
  exact hrecord

end TenantFleet
