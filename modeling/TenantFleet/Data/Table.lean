/-
# Tables

A table stores values under two keys, such as a namespace and a name, in the order of the first and
then of the second key.
-/
import TenantFleet.Data.Dict

namespace TenantFleet

/-- Values under two keys. -/
abbrev Table (α : Type) := Dict (Dict α)

namespace Table

variable {α : Type}

/-- The values under a first key. -/
def row (t : Table α) (a : String) : Dict α := t.getD a .empty

/-- The value under two keys. -/
def at? (t : Table α) (a b : String) : Option α := (row t a).get? b

/-- Stores a value under two keys, replacing what was there. -/
def put (t : Table α) (a b : String) (value : α) : Table α := t.insert a ((row t a).insert b value)

/-- Forgets two keys. -/
def remove (t : Table α) (a b : String) : Table α := t.modify a fun r => r.erase b

/-- All values, in order of their keys. -/
def all (t : Table α) : List α := t.values.flatMap Dict.values

@[simp] theorem at?_put_self (t : Table α) (a b : String) (value : α) :
    at? (put t a b value) a b = some value := by
  simp [at?, put, row, Dict.getD]

/-- A store leaves the other keys alone. -/
theorem at?_put_of_ne (t : Table α) {a b a' b' : String} (value : α) (h : (a, b) ≠ (a', b')) :
    at? (put t a b value) a' b' = at? t a' b' := by
  by_cases ha : a = a'
  · subst ha
    have hb : b ≠ b' := fun e => h (by rw [e])
    simp [at?, put, row, Dict.getD, Dict.get?_insert_of_ne _ _ hb]
  · simp [at?, put, row, Dict.getD, Dict.get?_insert_of_ne _ _ ha]

end Table

end TenantFleet
