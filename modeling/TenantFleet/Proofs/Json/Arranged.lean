/-
# Arrangements of documents

Documents are sent with the members of their objects in an order that is not that of the canonical
form: those of a record stand in the order of its fields, and those of a dictionary in any order. As
long as no name is twice this tells nothing: the same is found under each name.

* `Sorted`, `Distinct` : that the members of all objects are sorted by name, and that no name is
  there twice;
* `canonical_of_sorted` : sorted documents are canonical;
* `Arrangement` : that a document is another one with its members in some order;
* `Arrangement.holds` : what is found under the names of an arrangement of an object.
-/
import TenantFleet.Proofs.Json.Fits

namespace TenantFleet

/-- A dictionary is that of its entries. -/
theorem Dict.ofList_entries {α : Type} (d : Dict α) : Dict.ofList d.entries = d := by
  refine Dict.ext_get? fun key => ?_
  rw [Dict.get?_ofList, Dict.getLast?_valuesOf_entries]

/-- Members that are sorted by name have different names. -/
theorem nodup_of_sorted {α : Type} {l : List (String × α)} (h : l.Pairwise fun a b => a.1 < b.1) :
    (l.map Prod.fst).Nodup := by
  refine List.pairwise_map.2 (h.imp fun {a b} hlt heq => ?_)
  rw [heq] at hlt
  exact String.lt_irrefl b.1 hlt

namespace Json

variable {x y : Json} {depth : Nat}

/-! ## Sorted documents -/

/-- Whether the members of all objects of a document are sorted by name. -/
inductive Sorted : Json → Prop
  | null : Sorted .null
  | bool (b : Bool) : Sorted (.bool b)
  | num (n : Number) : Sorted (.num n)
  | str (s : String) : Sorted (.str s)
  | arr {items : List Json} (h : ∀ x ∈ items, Sorted x) : Sorted (.arr items)
  | obj {members : List (String × Json)} (hnames : members.Pairwise fun a b => a.1 < b.1)
    (h : ∀ m ∈ members, Sorted m.2) : Sorted (.obj members)

mutual

/-- Canonical forms are sorted. -/
theorem sorted_canonical : (x : Json) → Sorted x.canonical
  | .null => .null
  | .bool b => .bool b
  | .num n => .num n
  | .str s => .str s
  | .arr items => .arr (sorted_canonicalItems items)
  | .obj ms => .obj (Dict.ofList (canonicalMembers ms)).sorted fun m hm =>
    sorted_canonicalMembers ms m (Dict.mem_of_get?_ofList (Dict.mem_entries.1 hm))

theorem sorted_canonicalItems : (l : List Json) → ∀ x ∈ canonicalItems l, Sorted x
  | [] => fun _ hx => absurd hx List.not_mem_nil
  | x :: rest => List.forall_mem_cons.2 ⟨sorted_canonical x, sorted_canonicalItems rest⟩

theorem sorted_canonicalMembers : (l : List (String × Json)) → ∀ m ∈ canonicalMembers l, Sorted m.2
  | [] => fun _ hm => absurd hm List.not_mem_nil
  | (_, x) :: rest => List.forall_mem_cons.2 ⟨sorted_canonical x, sorted_canonicalMembers rest⟩

end

/-- Sorted documents are canonical. -/
theorem canonical_of_sorted (h : Sorted x) : canonical x = x := by
  induction h with
  | null | bool b | num n | str s => rfl
  | @arr items _ ih => rw [canonical, canonicalItems_eq_map, List.map_congr_left ih, List.map_id']
  | @obj ms hnames _ ih =>
    have hsame : canonicalMembers ms = ms := by
      rw [canonicalMembers_eq_map]
      refine (List.map_congr_left fun m hm => ?_).trans (List.map_id ms)
      rw [ih m hm]
      rfl
    have hdict := Dict.ofList_entries ⟨ms, hnames⟩
    rw [canonical, hsame]
    exact congrArg (fun d => Json.obj d.entries) hdict

/-- Whether no name is twice among the members of an object of a document. -/
inductive Distinct : Json → Prop
  | null : Distinct .null
  | bool (b : Bool) : Distinct (.bool b)
  | num (n : Number) : Distinct (.num n)
  | str (s : String) : Distinct (.str s)
  | arr {items : List Json} (h : ∀ x ∈ items, Distinct x) : Distinct (.arr items)
  | obj {members : List (String × Json)} (hnames : (members.map Prod.fst).Nodup)
    (h : ∀ m ∈ members, Distinct m.2) : Distinct (.obj members)

/-- No name is twice in a sorted document. -/
theorem Sorted.distinct (h : Sorted x) : Distinct x := by
  induction h with
  | null => exact .null
  | bool b => exact .bool b
  | num n => exact .num n
  | str s => exact .str s
  | arr _ ih => exact .arr ih
  | obj hnames _ ih => exact .obj (nodup_of_sorted hnames) ih

/-! ## Arrangements -/

/-- Whether a document is another one with the members of its objects in some order, and no name is
twice. -/
structure Arrangement (y x : Json) : Prop where
  distinct : y.Distinct
  canonical_eq : y.canonical = x

/-- A sorted document is an arrangement of itself. -/
theorem Sorted.arrangement (h : Sorted x) : Arrangement x x := ⟨h.distinct, canonical_of_sorted h⟩

namespace Arrangement

variable {items : List Json} {es : List (String × Json)}

/-- Plain values have one arrangement. -/
theorem eq_of_plain (h : Arrangement y x) (harr : ∀ items, x ≠ .arr items)
    (hobj : ∀ ms, x ≠ .obj ms) : y = x := by
  have hcanonical := h.canonical_eq
  cases y with
  | null | bool b | num n | str s => exact hcanonical
  | arr items => exact absurd hcanonical.symm (harr _)
  | obj ms => exact absurd hcanonical.symm (hobj _)

/-- An arrangement of a list is one of each item. -/
theorem exists_arr (h : Arrangement y (.arr items)) :
    ∃ items', y = .arr items' ∧ items'.map canonical = items ∧ ∀ z ∈ items', z.Distinct := by
  obtain ⟨hdistinct, hcanonical⟩ := h
  cases y <;> cases hcanonical
  cases hdistinct with
  | arr hitems => exact ⟨_, rfl, (canonicalItems_eq_map _).symm, hitems⟩

/-- An arrangement of an object has its values under the same names. -/
theorem exists_obj (h : Arrangement y (.obj es)) : ∃ ms, y = .obj ms ∧ (ms.map Prod.fst).Nodup ∧
    (∀ m ∈ ms, m.2.Distinct) ∧ (Dict.ofList (canonicalMembers ms)).entries = es := by
  obtain ⟨hdistinct, hcanonical⟩ := h
  cases y <;> cases hcanonical
  cases hdistinct with
  | obj hnames hmembers => exact ⟨_, rfl, hnames, hmembers, rfl⟩

end Arrangement

/-- The values of the members of an object are values in its canonical form when no name is
twice. -/
theorem mem_canonical_of_mem {ms : List (String × Json)} (hnames : (ms.map Prod.fst).Nodup)
    {m : String × Json}
    (hm : m ∈ ms) : (m.1, m.2.canonical) ∈ (Dict.ofList (canonicalMembers ms)).entries := by
  rw [Dict.mem_entries, canonicalMembers_eq_map, Dict.get?_ofList_map,
    (Dict.get?_ofList_eq_some_iff hnames).2 hm]
  rfl

/-- A document where no name is twice fits when its canonical form does. -/
theorem Distinct.fits (h : y.Distinct) (hfits : y.canonical.written.Fits depth) :
    y.written.Fits depth := by
  -- Each member is one of the canonical form: a later one of the same name could have replaced it.
  induction h generalizing depth with
  | null | bool b | num n | str s => exact hfits
  | arr _ ih =>
    cases depth with
    | zero => cases hfits
    | succ depth =>
      rw [canonical, fits_arr_iff, canonicalItems_eq_map, List.forall_mem_map] at hfits
      exact fits_arr_iff.2 fun x hx => ih x hx (hfits x hx)
  | obj hnames _ ih =>
    cases depth with
    | zero => cases hfits
    | succ depth =>
      rw [canonical, fits_obj_iff] at hfits
      exact fits_obj_iff.2 fun m hm => ih m hm (hfits _ (mem_canonical_of_mem hnames hm))

/-! ## What is found under a name -/

/-- Whether what is found under a name is an arrangement of what was sent, or nothing where nothing
was. -/
inductive Holds (ms : Reader.Members) (name : String) : Option Json → Prop
  | missing (h : Reader.values ms name = []) : Holds ms name none
  | found {x y : Json} (h : Reader.values ms name = [y.written]) (hy : y.Arrangement x) :
      Holds ms name (some x)

/-- At most one value is found. -/
theorem Holds.length_le {ms : Reader.Members} {name : String} {sent : Option Json}
    (h : Holds ms name sent) : (Reader.values ms name).length ≤ 1 := by
  cases h with
  | missing h => rw [h]; exact Nat.zero_le 1
  | found h _ => rw [h]; exact Nat.le_refl 1

/-- There is at most one value under a name when no name is twice. -/
theorem length_valuesOf_le {ms : List (String × Json)} (hnames : (ms.map Prod.fst).Nodup)
    (name : String) : (valuesOf ms name).length ≤ 1 := by
  have hfilter := (List.pairwise_map.1 hnames).filter fun m => decide (m.1 = name)
  have hname : ∀ m ∈ ms.filter fun m => decide (m.1 = name), m.1 = name := fun m hm =>
    of_decide_eq_true (List.mem_filter.1 hm).2
  unfold valuesOf
  rw [List.length_map]
  generalize ms.filter (fun m => decide (m.1 = name)) = l at hfilter hname
  match l, hfilter, hname with
  | [], _, _ => exact Nat.zero_le 1
  | [_], _, _ => exact Nat.le_refl 1
  | a :: b :: rest, hfilter, hname =>
    have hne : a.1 ≠ b.1 := (List.pairwise_cons.1 hfilter).1 b List.mem_cons_self
    rw [hname a List.mem_cons_self, hname b (List.mem_cons_of_mem a List.mem_cons_self)] at hne
    exact absurd rfl hne

/-- Under a name of an arrangement of an object stands an arrangement of the value. -/
theorem Arrangement.holds {ms es : List (String × Json)} (h : Arrangement (.obj ms) (.obj es))
    (name : String) :
    Holds (writtenMembers ms) name (valuesOf es name).getLast? := by
  obtain ⟨ms', heq, hnames, hmembers, rfl⟩ := h.exists_obj
  cases heq
  have hlength := length_valuesOf_le hnames name
  have hmem : ∀ x ∈ valuesOf ms name, x.Distinct := fun x hx => by
    obtain ⟨m, hm, rfl⟩ := List.mem_map.1 hx
    exact hmembers m (List.mem_filter.1 hm).1
  have hvalues := values_writtenMembers ms name
  -- The last value under a name is what the canonical form has; here it is the only one.
  rw [Dict.getLast?_valuesOf_entries, get?_canonicalMembers, get?_obj]
  match valuesOf ms name, hlength, hmem, hvalues with
  | [], _, _, hvalues => exact .missing hvalues
  | [x], _, hmem, hvalues => exact .found hvalues ⟨hmem x List.mem_cons_self, rfl⟩

/-- Under a name of an arrangement of the object of a dictionary stands an arrangement of the
entry. -/
theorem Arrangement.holds_ofDict {α : Type} {ms : List (String × Json)} {f : α → Json} {d : Dict α}
    (h : Arrangement (.obj ms) (ofDict f d)) (name : String) :
    Holds (writtenMembers ms) name ((d.get? name).map f) := by
  have hvalues : valuesOf (d.entries.map fun e => (e.1, f e.2)) name =
      (valuesOf d.entries name).map f := by
    unfold valuesOf
    rw [List.filter_map, List.map_map, List.map_map]
    rfl
  have hholds := Arrangement.holds h name
  rwa [hvalues, List.getLast?_map, Dict.getLast?_valuesOf_entries] at hholds

end Json

end TenantFleet
