/-
# Documents that are the same value

Two documents are the same value when they differ in nothing but the order of members and in members
that a later one of the same name replaces. Their canonical forms tell exactly that.

* `Same` : that documents are the same value;
* `canonical_eq_iff` : same values have one canonical form;
* `Reordered` : that documents differ in member order alone;
* `canonical_reordered` : this leaves the canonical form, as long as members of one name keep their
  order.
-/
import TenantFleet.Proofs.Json.Place

namespace TenantFleet

/-- Two neighbours with different names may be put in in either order. -/
theorem Dict.ofList_swap {α : Type} (front back : List (String × α)) {e e' : String × α}
    (hne : e.1 ≠ e'.1) :
    Dict.ofList (front ++ e :: e' :: back) = Dict.ofList (front ++ e' :: e :: back) := by
  have hinsert : ∀ d : Dict α, (d.insert e.1 e.2).insert e'.1 e'.2 =
      (d.insert e'.1 e'.2).insert e.1 e.2 := by
    refine fun d => Dict.ext_get? fun key => ?_
    rw [Dict.get?_insert, Dict.get?_insert, Dict.get?_insert, Dict.get?_insert]
    by_cases hkey : e'.1 = key
    · rw [if_pos hkey, if_neg (hkey ▸ hne), if_pos hkey]
    · rw [if_neg hkey, if_neg hkey]
  unfold Dict.ofList
  rw [List.foldl_append, List.foldl_append]
  simp only [List.foldl_cons]
  rw [hinsert]

namespace Json

variable {x y : Json} {ms ms' : List (String × Json)}

/-! ## Canonical forms -/

theorem canonicalMembers_eq_map (ms : List (String × Json)) :
    canonicalMembers ms = ms.map fun m => (m.1, canonical m.2) := by
  induction ms with
  | nil => rfl
  | cons m rest ih => rw [canonicalMembers, ih, List.map_cons]

/-- The look-ups of a canonical form find the canonical forms of what stands under their names. -/
theorem get?_canonicalMembers (ms : List (String × Json)) (name : String) :
    (Dict.ofList (canonicalMembers ms)).get? name = ((Json.obj ms).get? name).map canonical := by
  rw [Dict.get?_ofList, valuesOf_canonicalMembers, List.getLast?_map, get?_obj]

/-- Objects have one canonical form when the canonical forms of what stands under each name are the
same. -/
theorem canonical_obj_eq_iff : canonical (.obj ms) = canonical (.obj ms') ↔
    ∀ name, ((Json.obj ms).get? name).map canonical = ((Json.obj ms').get? name).map canonical := by
  constructor
  · intro h name
    have hentries : (Dict.ofList (canonicalMembers ms)).entries =
        (Dict.ofList (canonicalMembers ms')).entries := by
      simpa only [canonical, obj.injEq] using h
    rw [← get?_canonicalMembers, ← get?_canonicalMembers, Dict.get?, hentries]
    rfl
  · intro h
    have hdict : Dict.ofList (canonicalMembers ms) = Dict.ofList (canonicalMembers ms') := by
      refine Dict.ext_get? fun name => ?_
      rw [get?_canonicalMembers, get?_canonicalMembers, h]
    rw [canonical, canonical, hdict]

/-! ## Same values -/

/-- Whether two documents are the same value: the same plain value, or lists with the same values at
each place, or objects with the same values under each name. -/
inductive Same : Json → Json → Prop
  | null : Same .null .null
  | bool (b : Bool) : Same (.bool b) (.bool b)
  | num (n : Number) : Same (.num n) (.num n)
  | str (s : String) : Same (.str s) (.str s)
  | arr {items items' : List Json} (hlength : items.length = items'.length)
    (hitems : ∀ (i : Nat) (x y : Json), items[i]? = some x → items'[i]? = some y → Same x y) :
    Same (.arr items) (.arr items')
  | obj {ms ms' : List (String × Json)}
    (hnames : ∀ name, ((Json.obj ms).get? name).isSome = ((Json.obj ms').get? name).isSome)
    (hvalues : ∀ name (x y : Json), (Json.obj ms).get? name = some x →
      (Json.obj ms').get? name = some y → Same x y) :
    Same (.obj ms) (.obj ms')

/-- Same values have one canonical form. -/
theorem Same.canonical_eq (h : Same x y) : canonical x = canonical y := by
  induction h with
  | null | bool b | num n | str s => rfl
  | @arr items items' hlength hitems ih =>
    rw [canonical, canonical, canonicalItems_eq_map, canonicalItems_eq_map]
    congr 1
    refine List.ext_getElem (by rw [List.length_map, List.length_map, hlength]) fun i h h' => ?_
    rw [List.length_map] at h h'
    rw [List.getElem_map, List.getElem_map]
    exact ih i _ _ (List.getElem?_eq_getElem h) (List.getElem?_eq_getElem h')
  | @obj ms ms' hnames hvalues ih =>
    refine canonical_obj_eq_iff.2 fun name => ?_
    have hname := hnames name
    cases hx : (Json.obj ms).get? name with
    | none =>
      cases hy : (Json.obj ms').get? name with
      | none => rfl
      | some y =>
        rw [hx, hy] at hname
        cases hname
    | some x =>
      cases hy : (Json.obj ms').get? name with
      | none =>
        rw [hx, hy] at hname
        cases hname
      | some y => exact congrArg some (ih name x y hx hy)

/-- What stands under a name is a part of the object. -/
theorem sizeOf_lt_of_get? {name : String} (h : (Json.obj ms).get? name = some x) :
    sizeOf x < sizeOf (Json.obj ms) := by
  rw [get?_obj] at h
  obtain ⟨m, hm, rfl⟩ := List.mem_map.1 (List.mem_of_getLast? h)
  have hmember := List.sizeOf_lt_of_mem (List.mem_filter.1 hm).1
  obtain ⟨key, value⟩ := m
  simp only [Prod.mk.sizeOf_spec, obj.sizeOf_spec] at hmember ⊢
  omega

/-- Documents with one canonical form are the same value. -/
theorem same_of_canonical_eq : (x y : Json) → canonical x = canonical y → Same x y
  | .null, y, h => by
    cases y <;> cases h
    exact .null
  | .bool b, y, h => by
    cases y <;> cases h
    exact .bool b
  | .num n, y, h => by
    cases y <;> cases h
    exact .num n
  | .str s, y, h => by
    cases y <;> cases h
    exact .str s
  | .arr items, .arr items', h => by
    rw [canonical, canonical, arr.injEq, canonicalItems_eq_map, canonicalItems_eq_map] at h
    refine .arr (by simpa using congrArg List.length h) fun i x y hx hy =>
      same_of_canonical_eq x y ?_
    have hitem := congrArg (fun l => l[i]?) h
    simpa only [List.getElem?_map, hx, hy, Option.map_some, Option.some.injEq] using hitem
  | .obj ms, .obj ms', h => by
    have hget := canonical_obj_eq_iff.1 h
    refine .obj (fun name => by simpa using congrArg Option.isSome (hget name))
      fun name x y hx hy => same_of_canonical_eq x y ?_
    have hvalue := hget name
    rwa [hx, hy, Option.map_some, Option.map_some, Option.some.injEq] at hvalue
  termination_by x => sizeOf x
  decreasing_by
    · have hmem := List.sizeOf_lt_of_mem (List.mem_of_getElem? hx)
      simp only [arr.sizeOf_spec]
      omega
    · exact sizeOf_lt_of_get? hx

/-- **Same values.** Documents have one canonical form exactly when they are the same value. -/
theorem canonical_eq_iff : canonical x = canonical y ↔ Same x y :=
  ⟨same_of_canonical_eq x y, Same.canonical_eq⟩

/-! ## Member order -/

/-- Whether two documents differ in nothing but member order: neighbours may change places when
their names are related. -/
inductive Reordered (R : String → String → Prop) : Json → Json → Prop
  /-- A document is as it is. -/
  | refl (x : Json) : Reordered R x x
  /-- More neighbours change places. -/
  | trans {x y z : Json} : Reordered R x y → Reordered R y z → Reordered R x z
  /-- Members change places within an item of a list. -/
  | item (front back : List Json) {x y : Json} : Reordered R x y →
    Reordered R (.arr (front ++ x :: back)) (.arr (front ++ y :: back))
  /-- Members change places within the value of a member. -/
  | value (front back : List (String × Json)) (name : String) {x y : Json} : Reordered R x y →
    Reordered R (.obj (front ++ (name, x) :: back)) (.obj (front ++ (name, y) :: back))
  /-- Two neighbours change places. -/
  | swap (front back : List (String × Json)) {m m' : String × Json} : R m.1 m'.1 →
    Reordered R (.obj (front ++ m :: m' :: back)) (.obj (front ++ m' :: m :: back))

/-- **Member order.** Documents that differ in the order of members with different names have one
canonical form. -/
theorem canonical_reordered (h : Reordered (fun name name' => name ≠ name') x y) :
    canonical x = canonical y := by
  induction h with
  | refl x => rfl
  | trans _ _ ih ih' => exact ih.trans ih'
  | item front back _ ih =>
    simp only [canonical, canonicalItems_eq_map, List.map_append, List.map_cons, ih]
  | value front back name _ ih =>
    simp only [canonical, canonicalMembers_eq_map, List.map_append, List.map_cons, ih]
  | @swap front back m m' hne =>
    simp only [canonical, canonicalMembers_eq_map, List.map_append, List.map_cons]
    rw [Dict.ofList_swap]
    exact hne

end Json

end TenantFleet
