/-
# Places in documents

A place is a list of steps, each to the member of a name or to an item of a list. What has no parts
of its own is an atom, and a document is told, up to the order of members, by the atoms at its
places.

* `Written.atomAt?` : the atom at a place;
* `into_object` : what stands under a name of an object that is built;
* `atomAt?_canonical` : the canonical form has the atoms of the document;
* `SetAt`, `Changed` : that a document is another one with a value at a place, or with several.
-/
import TenantFleet.Proofs.Json.Reading

namespace TenantFleet

/-! ## Look-ups -/

namespace Dict

variable {α : Type}

open Json (valuesOf)

/-- What is found after entries were put in is the last one of its name, or was there before. -/
theorem get?_foldl_insert (l : List (String × α)) (d : Dict α) (key : String) :
    (l.foldl (fun d e => d.insert e.1 e.2) d).get? key = (valuesOf l key).getLast?.or
    (d.get? key) := by
  induction l generalizing d with
  | nil => rfl
  | cons e rest ih =>
    rw [List.foldl_cons, ih, get?_insert]
    by_cases hkey : e.1 = key
    · have hvalues : valuesOf (e :: rest) key = e.2 :: valuesOf rest key := by simp [valuesOf, hkey]
      rw [hvalues, List.getLast?_cons, if_pos hkey]
      cases (valuesOf rest key).getLast? <;> rfl
    · have hvalues : valuesOf (e :: rest) key = valuesOf rest key := by simp [valuesOf, hkey]
      rw [hvalues, if_neg hkey]

/-- What is found in a dictionary of a list is the last entry of its name. -/
theorem get?_ofList (l : List (String × α)) (key : String) :
    (ofList l).get? key = (valuesOf l key).getLast? := by
  unfold ofList
  rw [get?_foldl_insert]
  exact Option.or_none

/-- The only value that is listed under a name is the one that is found. -/
theorem getLast?_valuesOf_entries (d : Dict α) (key : String) :
    (valuesOf d.entries key).getLast? = d.get? key := by
  rw [← get?_ofList]
  unfold ofList
  rw [get?_foldl_of_sorted d.sorted]
  exact Option.or_none

/-- A name that is not found has no values. -/
theorem valuesOf_eq_nil {d : Dict α} {key : String} (h : d.get? key = none) :
    valuesOf d.entries key = [] := by
  rw [← getLast?_valuesOf_entries] at h
  exact List.getLast?_eq_none_iff.1 h

/-- A dictionary of a list has no entries only if the list has none. -/
theorem entries_ofList_eq_nil {l : List (String × α)} : (ofList l).entries = [] ↔ l = [] := by
  constructor
  · intro h
    cases l with
    | nil => rfl
    | cons e rest =>
      -- The name of the first entry is found.
      have hfound : ((ofList (e :: rest)).get? e.1).isSome = true := by
        rw [get?_ofList]
        simp [valuesOf]
      unfold get? at hfound
      rw [h] at hfound
      cases hfound
  · rintro rfl
    rfl

end Dict

namespace Json

/-! ## Steps and atoms -/

/-- A step into a document. -/
inductive Step
  /-- To what stands under a name. -/
  | member (name : String)
  /-- To an item of a list. -/
  | item (index : Nat)
  deriving DecidableEq

/-- A part of a document that has no parts of its own. -/
inductive Atom
  | null
  | bool (b : Bool)
  | num (n : Number)
  | str (s : String)
  | noItems
  | noMembers
  | unreadable
  deriving DecidableEq

namespace Written

/-- What is written, if it has no parts of its own. -/
def atom? : Written → Option Atom
  | .null => some .null
  | .bool b => some (.bool b)
  | .num n => some (.num n)
  | .str s => some (.str s)
  | .arr [] => some .noItems
  | .arr (_ :: _) => none
  | .obj [] => some .noMembers
  | .obj (_ :: _) => none
  | .unreadable => some .unreadable

/-- What a step leads to; of members with one name the last one counts. -/
def into : Step → Written → Option Written
  | .member name, .obj ms => (valuesOf ms name).getLast?
  | .item i, .arr items => items[i]?
  | _, _ => none

/-- What stands at a place. -/
def at? : List Step → Written → Option Written
  | [], x => some x
  | s :: p, x => (x.into s).bind (at? p)

/-- The atom at a place. -/
def atomAt? (p : List Step) (x : Written) : Option Atom := (x.at? p).bind atom?

theorem atomAt?_cons (s : Step) (p : List Step) (x : Written) :
    x.atomAt? (s :: p) = (x.into s).bind (atomAt? p) := by
  unfold atomAt?
  rw [at?]
  cases x.into s <;> rfl

/-- A text has no parts. -/
theorem eq_nil_of_atomAt?_str {s : String} {p : List Step} {a : Atom}
    (h : (Written.str s).atomAt? p = some a) : p = [] := by
  cases p with
  | nil => rfl
  | cons step p => cases step <;> cases h

/-- Null has no parts. -/
theorem eq_nil_of_atomAt?_null {p : List Step} {a : Atom}
    (h : Written.null.atomAt? p = some a) : p = [] ∧ a = .null := by
  cases p with
  | nil => exact ⟨rfl, (Option.some.inj h).symm⟩
  | cons step p => cases step <;> cases h

/-- Only null is the atom null. -/
theorem eq_null_of_atom? {x : Written} (h : x.atom? = some .null) : x = .null := by
  unfold atom? at h
  split at h
  · rfl
  all_goals cases h

end Written

/-! ## Objects and lists -/

/-- The forms of items. -/
theorem writtenItems_eq_map (l : List Json) : writtenItems l = l.map written := by
  induction l with
  | nil => rfl
  | cons x rest ih =>
    rw [List.map_cons, ← ih]
    rfl

/-- What stands under a name of an object is its last member of that name. -/
theorem into_obj (ms : List (String × Json)) (name : String) :
    (Json.obj ms).written.into (.member name) = (valuesOf ms name).getLast?.map written := by
  have hvalues : valuesOf (writtenMembers ms) name = (valuesOf ms name).map written :=
    values_writtenMembers ms name
  show (valuesOf (writtenMembers ms) name).getLast? = _
  rw [hvalues, List.getLast?_map]

/-- An object that is built has the last one of the members of a name. -/
theorem into_object (ms : List (String × Json)) (name : String) :
    (object ms).written.into (.member name) = (valuesOf ms name).getLast?.map written := by
  unfold object
  rw [into_obj, Dict.getLast?_valuesOf_entries, Dict.get?_ofList]

/-- An object that is built is an atom when it has no members. -/
theorem atom?_object (ms : List (String × Json)) :
    (object ms).written.atom? = if ms.isEmpty then some .noMembers else none := by
  unfold object
  cases ms with
  | nil => rfl
  | cons m rest =>
    cases hentries : (Dict.ofList (m :: rest)).entries with
    | nil => exact absurd (Dict.entries_ofList_eq_nil.1 hentries) (List.cons_ne_nil m rest)
    | cons e entries => rfl

/-- The members that are present. -/
def present (members : List (String × Option Json)) : List (String × Json) :=
  members.filterMap fun m => m.2.map fun v => (m.1, v)

/-- No members are present when none of them is. -/
theorem isEmpty_present (members : List (String × Option Json)) :
    (present members).isEmpty = !members.any fun m => m.2.isSome := by
  induction members with
  | nil => rfl
  | cons m rest ih =>
    obtain ⟨name, x⟩ := m
    cases x with
    | none => exact ih
    | some y => rfl

/-- A member that is missing makes no difference. -/
theorem record_concat_none (name : String) (members : List (String × Option Json)) :
    record (members ++ [(name, none)]) = record members := by
  unfold record
  rw [List.filterMap_append]
  exact congrArg object (List.append_nil _)

/-- The values of two lists of members. -/
theorem valuesOf_append {α : Type} (l l' : List (String × α)) (name : String) :
    valuesOf (l ++ l') name = valuesOf l name ++ valuesOf l' name := by
  unfold valuesOf
  rw [List.filter_append, List.map_append]

/-- The value of a member, if it is present, and those of the members behind it. -/
theorem valuesOf_present_cons (name key : String) (x : Option Json)
    (rest : List (String × Option Json)) :
    valuesOf (present ((name, x) :: rest)) key =
      (if name = key then x.toList else []) ++ valuesOf (present rest) key := by
  cases x with
  | none =>
    rw [Option.toList_none, ite_self]
    rfl
  | some y =>
    by_cases hkey : name = key
    · simp [present, valuesOf, hkey]
    · simp [present, valuesOf, hkey]

/-- A name that no member has has no values. -/
theorem valuesOf_present_of_not_mem {name : String} {members : List (String × Option Json)}
    (h : name ∉ members.map Prod.fst) : valuesOf (present members) name = [] := by
  induction members with
  | nil => rfl
  | cons m rest ih =>
    rw [List.map_cons, List.mem_cons, not_or] at h
    rw [valuesOf_present_cons, if_neg (Ne.symm h.1), ih h.2]
    rfl

/-- What stands under a name of the object of a dictionary is what is found there. -/
theorem into_ofDict {α : Type} (f : α → Json) (d : Dict α) (name : String) :
    (ofDict f d).written.into (.member name) = (d.get? name).map fun a => (f a).written := by
  have hvalues : valuesOf (d.entries.map fun e => (e.1, f e.2)) name =
      (valuesOf d.entries name).map f := by
    unfold valuesOf
    rw [List.filter_map, List.map_map, List.map_map]
    rfl
  unfold ofDict
  rw [into_obj, hvalues, List.getLast?_map, Dict.getLast?_valuesOf_entries, Option.map_map]
  rfl

/-- What stands at an item of a list. -/
theorem into_arr (l : List Json) (i : Nat) :
    (Json.arr l).written.into (.item i) = l[i]?.map written := by
  show (writtenItems l)[i]? = _
  rw [writtenItems_eq_map, List.getElem?_map]

/-! ## Canonical forms -/

mutual

/-- What has a value is the form of it. -/
theorem written_of_value? : (x : Written) → {y : Json} → x.value? = some y → y.written = x
  | .null, _, h | .bool _, _, h | .num _, _, h | .str _, _, h => by
    simp only [Written.value?, Option.some.injEq] at h
    rw [← h, written]
  | .arr items, y, h => by
    obtain ⟨l, hl, rfl⟩ := Option.map_eq_some_iff.1 (by rwa [Written.value?] at h)
    rw [written, written_of_itemsValue? items hl]
  | .obj members, y, h => by
    obtain ⟨l, hl, rfl⟩ := Option.map_eq_some_iff.1 (by rwa [Written.value?] at h)
    rw [written, written_of_membersValue? members hl]
  | .unreadable, _, h => by simp [Written.value?] at h

/-- Items that have values are the forms of these. -/
theorem written_of_itemsValue? :
    (items : List Written) → {l : List Json} → Written.itemsValue? items = some l →
    writtenItems l = items
  | [], _, h => by
    simp only [Written.itemsValue?, Option.some.injEq] at h
    rw [← h, writtenItems]
  | x :: rest, l, h => by
    rw [Written.itemsValue?] at h
    obtain ⟨y, hy, h⟩ := Option.bind_eq_some_iff.1 h
    obtain ⟨ys, hys, h⟩ := Option.bind_eq_some_iff.1 h
    obtain rfl := Option.some.inj h
    rw [writtenItems, written_of_value? x hy, written_of_itemsValue? rest hys]

/-- Members that have values are the forms of these. -/
theorem written_of_membersValue? :
    (members : List (String × Written)) → {l : List (String × Json)} →
      Written.membersValue? members = some l → writtenMembers l = members
  | [], _, h => by
    simp only [Written.membersValue?, Option.some.injEq] at h
    rw [← h, writtenMembers]
  | (name, x) :: rest, l, h => by
    rw [Written.membersValue?] at h
    obtain ⟨y, hy, h⟩ := Option.bind_eq_some_iff.1 h
    obtain ⟨ys, hys, h⟩ := Option.bind_eq_some_iff.1 h
    obtain rfl := Option.some.inj h
    rw [writtenMembers, written_of_value? x hy, written_of_membersValue? rest hys]

end

/-- Members in canonical form have their values in canonical form. -/
theorem valuesOf_canonicalMembers (ms : List (String × Json)) (name : String) :
    valuesOf (canonicalMembers ms) name = (valuesOf ms name).map canonical := by
  induction ms with
  | nil => rfl
  | cons m rest ih =>
    have hcons : canonicalMembers (m :: rest) = (m.1, m.2.canonical) :: canonicalMembers rest := rfl
    unfold valuesOf at ih ⊢
    rw [hcons, List.filter_cons, List.filter_cons]
    split <;> simp [ih]

/-- The canonical form of items. -/
theorem canonicalItems_eq_map (l : List Json) : canonicalItems l = l.map canonical := by
  induction l with
  | nil => rfl
  | cons x rest ih =>
    rw [List.map_cons, ← ih]
    rfl

/-- The canonical form has the atoms of the document. -/
theorem atomAt?_canonical (x : Json) (p : List Step) :
    x.canonical.written.atomAt? p = x.written.atomAt? p := by
  induction p generalizing x with
  | nil =>
    cases x with
    | null | bool b | num n | str s => rfl
    | arr items => cases items <;> rfl
    | obj ms =>
      show (object (canonicalMembers ms)).written.atom? = _
      rw [atom?_object]
      cases ms <;> rfl
  | cons s p ih =>
    rw [Written.atomAt?_cons, Written.atomAt?_cons]
    -- Both sides lead to the same part, in canonical form on the left.
    have hbind : ∀ o : Option Json, (o.map fun y => y.canonical.written).bind (Written.atomAt? p) =
        (o.map written).bind (Written.atomAt? p) := by
      rintro (- | y)
      · rfl
      · exact ih y
    cases x with
    | null | bool b | num n | str s => cases s <;> rfl
    | arr items =>
      cases s with
      | member name => rfl
      | item i =>
        rw [canonical, into_arr, into_arr, canonicalItems_eq_map, List.getElem?_map, Option.map_map]
        exact hbind _
    | obj ms =>
      cases s with
      | member name =>
        have hsorted : (Json.obj ms).canonical.written.into (.member name) =
            (valuesOf ms name).getLast?.map fun y => y.canonical.written := by
          show (object (canonicalMembers ms)).written.into (.member name) = _
          rw [into_object, valuesOf_canonicalMembers, List.getLast?_map, Option.map_map]
          rfl
        rw [into_obj, hsorted]
        exact hbind _
      | item i => rfl

/-! ## Changes at a place -/

/-- Whether neither of two places lies within the other one. -/
def Apart (p c : List Step) : Prop := ¬ p <+: c ∧ ¬ c <+: p

instance (p c : List Step) : Decidable (Apart p c) := inferInstanceAs (Decidable (_ ∧ _))

theorem not_apart_nil (p : List Step) : ¬ Apart p [] := fun h => h.2 List.nil_prefix

theorem not_nil_apart (c : List Step) : ¬ Apart [] c := fun h => h.1 List.nil_prefix

/-- Places that begin with the same step are apart when they are apart behind it. -/
theorem apart_cons {s : Step} {p c : List Step} : Apart (s :: p) (s :: c) ↔ Apart p c := by
  unfold Apart
  rw [List.cons_prefix_cons, List.cons_prefix_cons]
  simp

/-- What lies within a place is apart from where the place is. -/
theorem Apart.append {p c : List Step} (h : Apart p c) (rest : List Step) :
    Apart (p ++ rest) c := by
  refine ⟨fun hp => h.1 ((List.prefix_append p rest).trans hp), fun hc => ?_⟩
  rcases List.prefix_or_prefix_of_prefix hc (List.prefix_append p rest) with hcp | hpc
  · exact h.2 hcp
  · exact h.1 hpc

/-- The atom at a place of a document, if there is one. -/
def atomIn (x : Option Json) (p : List Step) : Option Atom := x.bind fun y => y.written.atomAt? p

/-- The atom at a place of the form of a document. -/
theorem atomIn_eq_bind (x : Option Json) (p : List Step) :
    atomIn x p = (x.map written).bind (Written.atomAt? p) := by
  cases x <;> rfl

/-- The atom behind a step. -/
theorem atomIn_some_cons (x : Json) (s : Step) (p : List Step) :
    atomIn (some x) (s :: p) = (x.written.into s).bind (Written.atomAt? p) :=
  Written.atomAt?_cons s p x.written

/-- Whether a document is another one with a value at a place, by their atoms. -/
structure SetAt (c : List Step) (v : Json) (x y : Option Json) : Prop where
  elsewhere : ∀ p, Apart p c → atomIn y p = atomIn x p
  there : ∀ p, atomIn y (c ++ p) = atomIn (some v) p

namespace SetAt

variable {c : List Step} {v : Json} {x y : Option Json} {name : String} {i : Nat}

/-- A document is any other one with itself at the whole of it. -/
theorem whole (x : Option Json) (v : Json) : SetAt [] v x (some v) :=
  ⟨fun p hp => absurd hp (not_apart_nil p), fun _ => rfl⟩

/-- What is set in an object without members can be set where there is no object. -/
theorem of_noMembers (h : SetAt (.member name :: c) v (some (.obj [])) y) :
    SetAt (.member name :: c) v none y := by
  refine ⟨fun p hp => ?_, h.there⟩
  rw [h.elsewhere p hp]
  cases p with
  | nil => exact absurd hp (not_nil_apart _)
  | cons s p =>
    rw [atomIn_some_cons]
    cases s <;> rfl

/-- What is set in a list without items can be set where there is no list. -/
theorem of_noItems (h : SetAt (.item i :: c) v (some (.arr [])) y) :
    SetAt (.item i :: c) v none y := by
  refine ⟨fun p hp => ?_, h.there⟩
  rw [h.elsewhere p hp]
  cases p with
  | nil => exact absurd hp (not_nil_apart _)
  | cons s p =>
    rw [atomIn_some_cons]
    cases s <;> rfl

/-- A list with an item behind the last one. -/
theorem concat (l : List Json) (v : Json) :
    SetAt [.item l.length] v (some (.arr l)) (some (.arr (l ++ [v]))) := by
  constructor
  · intro p hp
    cases p with
    | nil => exact absurd hp (not_nil_apart _)
    | cons s p =>
      rw [atomIn_some_cons, atomIn_some_cons]
      cases s with
      | member name => rfl
      | item i =>
        have hi : i ≠ l.length := by
          rintro rfl
          exact not_apart_nil p (apart_cons.1 hp)
        rw [into_arr, into_arr]
        congr 2
        by_cases hlt : i < l.length
        · rw [List.getElem?_append_left hlt]
        · have hbehind : (l ++ [v]).length ≤ i := by
            rw [List.length_append, List.length_singleton]
            omega
          rw [List.getElem?_eq_none hbehind, List.getElem?_eq_none (by omega)]
  · intro p
    rw [List.singleton_append, atomIn_some_cons, into_arr, List.getElem?_concat_length]
    rfl

/-- An object of texts with an entry that is put in. -/
theorem insert (d : Dict String) (key value : String) :
    SetAt [.member key] (.str value) (some (.ofTexts d))
      (some (.ofTexts (d.insert key value))) := by
  unfold ofTexts
  constructor
  · intro p hp
    cases p with
    | nil => exact absurd hp (not_nil_apart _)
    | cons s p =>
      rw [atomIn_some_cons, atomIn_some_cons]
      cases s with
      | item i => rfl
      | member name =>
        rw [into_ofDict, into_ofDict, Dict.get?_insert, if_neg]
        rintro rfl
        exact not_apart_nil p (apart_cons.1 hp)
  · intro p
    rw [List.singleton_append, atomIn_some_cons, into_ofDict, Dict.get?_insert_self]
    rfl

/-- An object with the same values under all names but one, where something is set. -/
theorem object {ms ms' : List (String × Json)}
    (hothers : ∀ key, name ≠ key → valuesOf ms' key = valuesOf ms key)
    (hname : SetAt c v (valuesOf ms name).getLast? (valuesOf ms' name).getLast?) :
    SetAt (.member name :: c) v (some (.object ms)) (some (.object ms')) := by
  constructor
  · intro p hp
    cases p with
    | nil => exact absurd hp (not_nil_apart _)
    | cons s p =>
      rw [atomIn_some_cons, atomIn_some_cons]
      cases s with
      | item i => rfl
      | member key =>
        rw [into_object, into_object, ← atomIn_eq_bind, ← atomIn_eq_bind]
        by_cases hkey : name = key
        · subst hkey
          exact hname.elsewhere p (apart_cons.1 hp)
        · rw [hothers key hkey]
  · intro p
    rw [List.cons_append, atomIn_some_cons, into_object, ← atomIn_eq_bind]
    exact hname.there p

/-- An object with a member, where something is set. -/
theorem member (es : List (String × Json)) (before after : List (String × Option Json))
    {a b : Option Json} (hes : valuesOf es name = []) (hbefore : name ∉ before.map Prod.fst)
    (hafter : name ∉ after.map Prod.fst) (h : SetAt c v a b) :
    SetAt (.member name :: c) v (some (.object (es ++ present (before ++ (name, a) :: after))))
      (some (.object (es ++ present (before ++ (name, b) :: after)))) := by
  have hvalues : ∀ x key, valuesOf (es ++ present (before ++ (name, x) :: after)) key =
      valuesOf es key ++ (valuesOf (present before) key ++
        ((if name = key then x.toList else []) ++ valuesOf (present after) key)) := by
    intro x key
    rw [valuesOf_append, show present (before ++ (name, x) :: after) =
      present before ++ present ((name, x) :: after) from List.filterMap_append, valuesOf_append,
      valuesOf_present_cons]
  have hself : ∀ x : Option Json,
      (valuesOf (es ++ present (before ++ (name, x) :: after)) name).getLast? = x := by
    intro x
    rw [hvalues, hes, valuesOf_present_of_not_mem hbefore, valuesOf_present_of_not_mem hafter,
      if_pos rfl]
    cases x <;> rfl
  refine object (fun key hkey => ?_) ?_
  · rw [hvalues, hvalues, if_neg hkey, if_neg hkey]
  · rw [hself, hself]
    exact h

/-- A record with a member, where something is set. -/
theorem record (before after : List (String × Option Json)) {a b : Option Json}
    (hbefore : name ∉ before.map Prod.fst) (hafter : name ∉ after.map Prod.fst)
    (h : SetAt c v a b) :
    SetAt (.member name :: c) v (some (.record (before ++ (name, a) :: after)))
      (some (.record (before ++ (name, b) :: after))) :=
  member [] before after rfl hbefore hafter h

end SetAt

/-- Whether a document is another one with changes: the places and the values there. -/
structure Changed (changes : List (List Step × Json)) (x y : Json) : Prop where
  elsewhere : ∀ p, (∀ c ∈ changes, Apart p c.1) → atomIn (some y) p = atomIn (some x) p
  there : ∀ c ∈ changes, ∀ p, atomIn (some y) (c.1 ++ p) = atomIn (some c.2) p

namespace Changed

variable {c c' : List Step} {v v' : Json} {x y z : Json}

theorem one (h : SetAt c v (some x) (some y)) : Changed [(c, v)] x y where
  elsewhere p hp := h.elsewhere p (hp (c, v) List.mem_cons_self)
  there := by
    intro d hd
    obtain rfl := List.mem_singleton.1 hd
    exact h.there

/-- Two changes at places that are apart. -/
theorem two (h : SetAt c v (some x) (some y)) (h' : SetAt c' v' (some y) (some z))
    (hapart : Apart c c') :
    Changed [(c, v), (c', v')] x z where
  elsewhere p hp := by
    rw [h'.elsewhere p (hp (c', v') (List.mem_cons_of_mem _ List.mem_cons_self)),
      h.elsewhere p (hp (c, v) List.mem_cons_self)]
  there := by
    intro d hd p
    rcases List.mem_cons.1 hd with rfl | hd
    · rw [h'.elsewhere _ (hapart.append p)]
      exact h.there p
    · obtain rfl := List.mem_singleton.1 hd
      exact h'.there p

end Changed

end Json

end TenantFleet
