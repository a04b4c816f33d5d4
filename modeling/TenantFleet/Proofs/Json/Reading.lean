/-
# What readers see of a member that was set

Readers look at members through the values under their names. So when a member is set, a record
reads as before but for that member, and an object of values reads as the dictionary with one more
entry.

* `Reader.Sets` : that members are those of another list but for one;
* `Reader.get?_of_dict` : what is found in a dictionary that was read is the last value of its name;
* `Reader.dict_setMember` and `Reader.texts_mergeMembers` : dictionaries after a member, or many,
  were set.
-/
import TenantFleet.Json.Reader
import TenantFleet.Proofs.Data.Dict
import TenantFleet.Proofs.Json.Merge

namespace TenantFleet

namespace Json

/-- The forms of members are their names with the forms of their values. -/
theorem writtenMembers_eq_map (ms : List (String × Json)) :
    writtenMembers ms = ms.map fun m => (m.1, m.2.written) := by
  induction ms with
  | nil => rfl
  | cons m rest ih =>
    rw [List.map_cons, ← ih]
    rfl

/-- The forms of members, one of which is set. -/
theorem writtenMembers_setMember (name : String) (x : Json) (ms : List (String × Json)) :
    writtenMembers (setMember name x ms) = setMember name x.written (writtenMembers ms) := by
  unfold setMember dropMember
  rw [writtenMembers_eq_map, writtenMembers_eq_map, List.map_append, List.filter_map]
  rfl

/-- The forms of the values under a name. -/
theorem values_writtenMembers (ms : List (String × Json)) (name : String) :
    Reader.values (writtenMembers ms) name = (valuesOf ms name).map written := by
  unfold Reader.values valuesOf
  rw [writtenMembers_eq_map, List.filter_map, List.map_map, List.map_map]
  rfl

end Json

namespace Reader

open Json (setMember)

variable {α : Type} {name : String} {v : Json.Written} {ms ms' : Members}

/-! ## Records -/

/-- Whether members are those of another list, but for one that has a value of its own. -/
def Sets (name : String) (v : Json.Written) (ms ms' : Members) : Prop :=
  ∀ key, values ms' key = if name = key then [v] else values ms key

/-- Setting a member does so. -/
theorem sets_setMember (name : String) (v : Json.Written) (ms : Members) :
    Sets name v ms (setMember name v ms) :=
  fun key => Json.valuesOf_setMember name key v ms

/-- The first member of a name has the first value of it. -/
theorem find?_eq_head? (ms : Members) (name : String) : find? ms name = (values ms name).head? := by
  unfold find? values
  rw [List.head?_map, List.head?_filter]

/-- No name is written twice when there is at most one value under each. -/
theorem unique_iff {names : List String} :
    unique names ms = true ↔ ∀ n ∈ names, (values ms n).length ≤ 1 := by
  unfold unique values
  rw [List.all_eq_true]
  constructor
  · intro h n hn
    have hcount := of_decide_eq_true (h n hn)
    rwa [List.countP_eq_length_filter, ← List.length_map (f := Prod.snd)] at hcount
  · intro h n hn
    have hlength := h n hn
    rw [List.length_map, ← List.countP_eq_length_filter] at hlength
    exact decide_eq_true hlength

/-- The values under a name that is unique are what stands there, if anything does. -/
theorem values_written {ms : List (String × Json)} {names : List String}
    (h : unique names (Json.writtenMembers ms) = true) (hname : name ∈ names) :
    values (Json.writtenMembers ms) name = (((Json.obj ms).get? name).map Json.written).toList := by
  have hlength := unique_iff.1 h name hname
  rw [Json.values_writtenMembers] at hlength ⊢
  rw [List.length_map] at hlength
  rw [Json.get?_obj]
  -- The last value that is written there is the only one.
  match Json.valuesOf ms name, hlength with
  | [], _ => rfl
  | [x], _ => rfl

/-- What is read of a part that is written once. -/
theorem optional_of_values {read : Reader α} (h : values ms name = [v]) :
    optional read ms name = nullable read v := by
  unfold optional
  rw [h]
  cases hv : nullable read v <;> simp [hv]

namespace Sets

/-- Members in the other order have their values in the other order. -/
theorem reverse (h : Sets name v ms ms') : Sets name v ms.reverse ms'.reverse := by
  have hvalues : ∀ (l : Members) key, values l.reverse key = (values l key).reverse := by
    intro l key
    unfold values
    rw [List.filter_reverse, List.map_reverse]
  intro key
  rw [hvalues, hvalues, h key]
  split <;> rfl

/-- Names stay unique. -/
theorem unique {names : List String} (h : Sets name v ms ms')
    (hms : Reader.unique names ms = true) :
    Reader.unique names ms' = true := by
  rw [unique_iff] at hms ⊢
  intro n hn
  rw [h n]
  split
  · exact Nat.le_refl 1
  · exact hms n hn

variable {read : Reader α} {key : String}

theorem required_self (h : Sets name v ms ms') : required read ms' name = read v := by
  unfold required
  rw [find?_eq_head?, h, if_pos rfl]
  rfl

theorem required_of_ne (h : Sets name v ms ms') (hkey : name ≠ key) :
    required read ms' key = required read ms key := by
  unfold required
  rw [find?_eq_head?, find?_eq_head?, h, if_neg hkey]

theorem optional_self (h : Sets name v ms ms') : optional read ms' name = nullable read v :=
  optional_of_values (by rw [h, if_pos rfl])

theorem optional_of_ne (h : Sets name v ms ms') (hkey : name ≠ key) :
    optional read ms' key = optional read ms key := by
  unfold optional
  rw [h, if_neg hkey]

theorem defaulted_self (h : Sets name v ms ms') (a : α) : defaulted read a ms' name = read v := by
  unfold defaulted
  rw [find?_eq_head?, h, if_pos rfl]
  rfl

theorem defaulted_of_ne (h : Sets name v ms ms') (hkey : name ≠ key) (a : α) :
    defaulted read a ms' key = defaulted read a ms key := by
  unfold defaulted
  rw [find?_eq_head?, find?_eq_head?, h, if_neg hkey]

end Sets

/-- A member that may be missing is there when one of its readings is. -/
theorem optional_map {β : Type} (read : Reader α) (f : α → β) (ms : Members) (name : String) :
    optional (fun x => (read x).map f) ms name = (optional read ms name).map (Option.map f) := by
  have hnullable :
      nullable (fun x => (read x).map f) = fun x => (nullable read x).map (Option.map f) := by
    funext x
    cases x <;> simp [nullable, Function.comp_def]
  have hmapM : ∀ l : List Json.Written, l.mapM (nullable fun x => (read x).map f) =
      (l.mapM (nullable read)).map (List.map (Option.map f)) := by
    intro l
    rw [hnullable]
    induction l with
    | nil => rfl
    | cons x rest ih =>
      rw [List.mapM_cons, List.mapM_cons, ih]
      cases nullable read x with
      | none => rfl
      | some a => cases rest.mapM (nullable read) <;> rfl
  unfold optional
  rw [hmapM]
  cases (values ms name).mapM (nullable read) with
  | none => rfl
  | some l => cases l <;> rfl

/-! ## Dictionaries -/

variable {read : Reader α} {d : Dict α}

/-- The entries that members are read as. -/
def entriesOf (read : Reader α) (ms : Members) : Option (List (String × α)) :=
  ms.mapM fun m => do return (m.1, ← read m.2)

/-- An object of values is read as the dictionary of its entries. -/
theorem dict_obj (read : Reader α) (ms : Members) :
    dict read (.obj ms) = (entriesOf read ms).map Dict.ofList := by
  show (entriesOf read ms).bind (fun es => some (Dict.ofList es)) = _
  cases entriesOf read ms <;> rfl

theorem entriesOf_cons (m : String × Json.Written) (rest : Members) :
    entriesOf read (m :: rest) = (read m.2).bind fun a => (entriesOf read rest).map fun es =>
      (m.1, a) :: es := by
  unfold entriesOf
  rw [List.mapM_cons]
  cases read m.2 with
  | none => rfl
  | some a => cases List.mapM (fun m => do return (m.1, ← read m.2)) rest <;> rfl

/-- Entries can be read when all their values can. -/
theorem entriesOf_isSome_iff :
    (entriesOf read ms).isSome = true ↔ ∀ m ∈ ms, (read m.2).isSome = true := by
  induction ms with
  | nil => simp [entriesOf]
  | cons m rest ih =>
    rw [entriesOf_cons, List.forall_mem_cons, ← ih]
    cases read m.2 with
    | none => simp
    | some a => simp

/-- What is found after entries were put in is the last value of its name, or was there before. -/
theorem get?_foldl_entries {es : List (String × α)} (hes : entriesOf read ms = some es) (d : Dict α)
    (key : String) :
    (es.foldl (fun d e => d.insert e.1 e.2) d).get? key =
      match (values ms key).getLast? with
      | some v => read v
      | none => d.get? key := by
  induction ms generalizing es d with
  | nil =>
    obtain rfl : [] = es := Option.some.inj hes
    rfl
  | cons m rest ih =>
    rw [entriesOf_cons] at hes
    obtain ⟨a, ha, hes⟩ := Option.bind_eq_some_iff.1 hes
    obtain ⟨others, hothers, rfl⟩ := Option.map_eq_some_iff.1 hes
    rw [List.foldl_cons, ih hothers]
    by_cases hkey : m.1 = key
    · have hvalues : values (m :: rest) key = m.2 :: values rest key := by
        simp [values, hkey]
      rw [hvalues, List.getLast?_cons]
      cases hlast : (values rest key).getLast? with
      | some v => rfl
      | none =>
        rw [Dict.get?_insert, if_pos hkey]
        exact ha.symm
    · have hvalues : values (m :: rest) key = values rest key := by
        simp [values, hkey]
      rw [hvalues, Dict.get?_insert, if_neg hkey]

/-- What is found in a dictionary that was read is the last value of its name. -/
theorem get?_of_dict (hd : dict read (.obj ms) = some d) (key : String) :
    d.get? key = (values ms key).getLast?.bind read := by
  rw [dict_obj] at hd
  obtain ⟨es, hes, rfl⟩ := Option.map_eq_some_iff.1 hd
  rw [Dict.ofList, get?_foldl_entries hes]
  cases (values ms key).getLast? <;> rfl

/-- A dictionary can be read when all its values can. -/
theorem dict_isSome_iff :
    (dict read (.obj ms)).isSome = true ↔ ∀ m ∈ ms, (read m.2).isSome = true := by
  rw [dict_obj, Option.isSome_map, entriesOf_isSome_iff]

/-- A member that is set is an entry more. -/
theorem dict_setMember {a : α} (hd : dict read (.obj ms) = some d) (ha : read v = some a)
    (name : String) :
    dict read (.obj (setMember name v ms)) = some (d.insert name a) := by
  have hall := dict_isSome_iff.1 (Option.isSome_iff_exists.2 ⟨d, hd⟩)
  -- All values can be read, so there is a dictionary; what it has is told by its look-ups.
  have hsome : (dict read (.obj (setMember name v ms))).isSome = true := by
    refine dict_isSome_iff.2 fun m hm => ?_
    rcases List.mem_append.1 hm with hm | hm
    · exact hall m (List.mem_filter.1 hm).1
    · rw [List.mem_singleton.1 hm, ha]
      rfl
  obtain ⟨d', hd'⟩ := Option.isSome_iff_exists.1 hsome
  have hsame : d' = d.insert name a := by
    refine Dict.ext_get? fun key => ?_
    rw [get?_of_dict hd', sets_setMember, Dict.get?_insert]
    split
    · exact ha
    · exact (get?_of_dict hd key).symm
  rw [hd', hsame]

/-- Texts that are merged into an object of texts are put into its dictionary. -/
theorem texts_mergeMembers {ms : List (String × Json)} {d : Dict String}
    (hd : texts (.obj (Json.writtenMembers ms)) = some d) (l : List (String × String)) :
    texts (.obj (Json.writtenMembers (Json.mergeMembers ms (l.map fun e => (e.1, Json.str e.2))))) =
      some (l.foldl (fun d e => d.insert e.1 e.2) d) := by
  induction l generalizing ms d with
  | nil => exact hd
  | cons e rest ih =>
    refine ih ?_
    show texts (.obj (Json.writtenMembers (setMember e.1 (.str e.2) ms))) = _
    rw [Json.writtenMembers_setMember]
    exact dict_setMember hd rfl e.1

/-- What is merged of texts is an overlay. -/
theorem texts_merge {ms : List (String × Json)} {d : Dict String}
    (hd : texts (.obj (Json.writtenMembers ms)) = some d) (e : Dict String) :
    texts ((Json.obj ms).merge (.ofTexts e)).written = some (d.overlay e) :=
  texts_mergeMembers hd e.entries

end Reader

end TenantFleet
