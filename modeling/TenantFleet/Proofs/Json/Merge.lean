/-
# Merging documents

A merge patch is a document that says what to change in another one: its members replace those of
the same name, null removes a member, and an object is merged into the member in turn. What is no
object is replaced as a whole.

* `Json.merge` : a document after a merge patch;
* `Json.valuesOf` : the values that are written under a name, which is all that readers look at;
* `valuesOf_setMember` : a member that is set replaces those of its name and nothing else;
* `get?_merge_single` : what a patch with one member leaves under a name.
-/
import TenantFleet.Json.Basic

namespace TenantFleet.Json

variable {α β : Type}

/-! ## Members -/

/-- The values that are written under a name. -/
def valuesOf (ms : List (String × α)) (name : String) : List α :=
  (ms.filter fun m => m.1 = name).map Prod.snd

/-- The members without those of a name. -/
def dropMember (name : String) (ms : List (String × α)) : List (String × α) :=
  ms.filter fun m => m.1 ≠ name

/-- The members with a value under a name, instead of those that were there. -/
def setMember (name : String) (value : α) (ms : List (String × α)) : List (String × α) :=
  dropMember name ms ++ [(name, value)]

/-- The members of a document; none unless it is an object. -/
def members : Json → List (String × Json)
  | .obj ms => ms
  | _ => []

/-- What stands under a name is the last value that is written there. -/
theorem get?_obj (name : String) (ms : List (String × Json)) :
    (Json.obj ms).get? name = (valuesOf ms name).getLast? := by
  show (ms.reverse.find? fun m => m.1 = name).map Prod.snd = _
  unfold valuesOf
  rw [List.getLast?_map, ← List.head?_reverse, ← List.filter_reverse, List.head?_filter]

/-- Dropping a member leaves the values of the others. -/
theorem valuesOf_dropMember (name key : String) (ms : List (String × α)) :
    valuesOf (dropMember name ms) key = if name = key then [] else valuesOf ms key := by
  unfold valuesOf dropMember
  rw [List.filter_filter]
  split
  · rename_i hkey
    subst hkey
    have hnone : (ms.filter fun m => decide (m.1 = name) && decide (m.1 ≠ name)) = [] := by
      rw [List.filter_eq_nil_iff]
      intro m _
      by_cases hm : m.1 = name <;> simp [hm]
    rw [hnone]
    rfl
  · rename_i hkey
    congr 1
    refine List.filter_congr ?_
    intro m _
    by_cases hm : m.1 = key
    · simp [hm, Ne.symm hkey]
    · simp [hm]

/-- A member that is set has its value, and the others have theirs. -/
theorem valuesOf_setMember (name key : String) (value : α) (ms : List (String × α)) :
    valuesOf (setMember name value ms) key = if name = key then [value] else valuesOf ms key := by
  have happend : valuesOf (setMember name value ms) key =
      valuesOf (dropMember name ms) key ++ valuesOf [(name, value)] key := by
    unfold valuesOf setMember
    rw [List.filter_append, List.map_append]
  rw [happend, valuesOf_dropMember]
  by_cases hkey : name = key
  · rw [if_pos hkey, if_pos hkey]
    simp [valuesOf, hkey]
  · rw [if_neg hkey, if_neg hkey]
    simp [valuesOf, hkey]

/-! ## Merge patches -/

mutual

/-- A document after a merge patch. -/
def merge (x : Json) : Json → Json
  | .obj patch => .obj (mergeMembers x.members patch)
  | .null => .null
  | .bool b => .bool b
  | .num n => .num n
  | .str s => .str s
  | .arr items => .arr items

/-- The members of a document after those of a patch, one after the other. -/
def mergeMembers (ms : List (String × Json)) : List (String × Json) → List (String × Json)
  | [] => ms
  | (name, patch) :: rest =>
    let merged := merge (((Json.obj ms).get? name).getD .null) patch
    mergeMembers (if patch = .null then dropMember name ms else setMember name merged ms) rest

end

/-- Merging the members of an object one after the other is merging them. -/
theorem merge_cons (x : Json) (m : String × Json) (rest : List (String × Json)) :
    x.merge (.obj (m :: rest)) = (x.merge (.obj [m])).merge (.obj rest) :=
  rfl

/-- Merging an object with one member sets it to what its value is merged into. -/
theorem mergeMembers_cons (ms : List (String × Json)) (name : String) {patch : Json}
    (hpatch : patch ≠ .null) (rest : List (String × Json)) :
    mergeMembers ms ((name, patch) :: rest) =
      mergeMembers
        (setMember name (merge (((Json.obj ms).get? name).getD .null) patch) ms) rest := by
  rw [mergeMembers, if_neg hpatch]

/-! ## Paths -/

/-- What stands at a path of names. -/
def at? : List String → Json → Option Json
  | [], x => some x
  | name :: rest, x => (x.get? name).bind (at? rest)

/-- What stands under a name of a document stands there among its members. -/
theorem get?_members (x : Json) (name : String) : (Json.obj x.members).get? name = x.get? name := by
  cases x <;> rfl

/-- A member that is set stands under its name, and the others under theirs. -/
theorem get?_setMember (name key : String) (x : Json) (ms : List (String × Json)) :
    (Json.obj (setMember name x ms)).get? key =
    if name = key then some x else (Json.obj ms).get? key := by
  rw [get?_obj, get?_obj, valuesOf_setMember]
  split <;> rfl

/-- What a patch with one member leaves under a name. -/
theorem get?_merge_single (x : Json) (name key : String) {patch : Json} (hpatch : patch ≠ .null) :
    (x.merge (.obj [(name, patch)])).get? key =
      if name = key then some (((x.get? name).getD .null).merge patch) else x.get? key := by
  show (Json.obj (mergeMembers x.members [(name, patch)])).get? key = _
  rw [mergeMembers_cons _ _ hpatch]
  show (Json.obj (setMember _ _ x.members)).get? key = _
  rw [get?_setMember, get?_members, get?_members]

end TenantFleet.Json
