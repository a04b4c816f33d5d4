/-
# JSON documents

A document is null, a truth value, a number, a text, a list or an object. An object is a list of
members in the order they were written; `Json.canonical` sorts the members of every object and keeps
the last of two members with one name, so documents that differ in member order alone have one
canonical form.
-/
import TenantFleet.Data.Dict
import TenantFleet.Decimal.Shortest

namespace TenantFleet

/-- A number is an integer of 64 bits, signed or unsigned, or a floating point number. -/
inductive Number
  | int (n : Int)
  | real (x : Binary64)
  deriving DecidableEq, Inhabited

/-- A JSON document. -/
inductive Json
  | null
  | bool (b : Bool)
  | num (n : Number)
  | str (s : String)
  | arr (items : List Json)
  | obj (members : List (String × Json))
  deriving Inhabited

namespace Json

/-! ## Equality -/

mutual

/-- Whether two documents are equal, member order included. -/
def decEq : (a b : Json) → Decidable (a = b)
  | .null, .null => isTrue rfl
  | .bool a, .bool b => if h : a = b then isTrue (by rw [h]) else isFalse (by simpa using h)
  | .num a, .num b => if h : a = b then isTrue (by rw [h]) else isFalse (by simpa using h)
  | .str a, .str b => if h : a = b then isTrue (by rw [h]) else isFalse (by simpa using h)
  | .arr a, .arr b =>
    match decEqList a b with
    | isTrue h => isTrue (by rw [h])
    | isFalse h => isFalse (by simpa using h)
  | .obj a, .obj b =>
    match decEqMembers a b with
    | isTrue h => isTrue (by rw [h])
    | isFalse h => isFalse (by simpa using h)
  | .null, .bool _ | .null, .num _ | .null, .str _ | .null, .arr _ | .null, .obj _
  | .bool _, .null | .bool _, .num _ | .bool _, .str _ | .bool _, .arr _ | .bool _, .obj _
  | .num _, .null | .num _, .bool _ | .num _, .str _ | .num _, .arr _ | .num _, .obj _
  | .str _, .null | .str _, .bool _ | .str _, .num _ | .str _, .arr _ | .str _, .obj _
  | .arr _, .null | .arr _, .bool _ | .arr _, .num _ | .arr _, .str _ | .arr _, .obj _
  | .obj _, .null | .obj _, .bool _ | .obj _, .num _ | .obj _, .str _ | .obj _, .arr _ =>
    isFalse (by simp)

/-- Whether two lists of documents are equal. -/
def decEqList : (a b : List Json) → Decidable (a = b)
  | [], [] => isTrue rfl
  | [], _ :: _ => isFalse (by simp)
  | _ :: _, [] => isFalse (by simp)
  | x :: xs, y :: ys =>
    match decEq x y, decEqList xs ys with
    | isTrue h, isTrue h' => isTrue (by rw [h, h'])
    | isFalse h, _ => isFalse (by simp [h])
    | _, isFalse h => isFalse (by simp [h])

/-- Whether two lists of members are equal. -/
def decEqMembers : (a b : List (String × Json)) → Decidable (a = b)
  | [], [] => isTrue rfl
  | [], _ :: _ => isFalse (by simp)
  | _ :: _, [] => isFalse (by simp)
  | (k, x) :: xs, (k', y) :: ys =>
    match decEq x y, decEqMembers xs ys with
    | isTrue h, isTrue h' =>
      if hk : k = k' then isTrue (by rw [hk, h, h']) else isFalse (by simp [hk])
    | isFalse h, _ => isFalse (by simp [h])
    | _, isFalse h => isFalse (by simp [h])

end

instance : DecidableEq Json := decEq

/-! ## Canonical form -/

mutual

/-- Sorts the members of every object; of two members with one name the later one stays. -/
def canonical : Json → Json
  | .arr items => .arr (canonicalItems items)
  | .obj members => .obj (Dict.ofList (canonicalMembers members)).entries
  | .null => .null
  | .bool b => .bool b
  | .num n => .num n
  | .str s => .str s

/-- The canonical forms of the items of a list. -/
def canonicalItems : List Json → List Json
  | [] => []
  | x :: rest => canonical x :: canonicalItems rest

/-- The members with their values in canonical form, in the order they were written. -/
def canonicalMembers : List (String × Json) → List (String × Json)
  | [] => []
  | (k, x) :: rest => (k, canonical x) :: canonicalMembers rest

end

/-! ## Building documents -/

/-- The number of an integer. -/
def int (n : Int) : Json := .num (.int n)

/-- The number of a natural. -/
def nat (n : Nat) : Json := .num (.int n)

/-- An object of the given members, sorted by name. -/
def object (members : List (String × Json)) : Json := .obj (Dict.ofList members).entries

/-- An object of the members that are present. -/
def record (members : List (String × Option Json)) : Json :=
  object (members.filterMap fun m => m.2.map fun v => (m.1, v))

/-- The object of a dictionary. -/
def ofDict {α : Type} (f : α → Json) (d : Dict α) : Json :=
  .obj (d.entries.map fun e => (e.1, f e.2))

/-- The object of a dictionary of texts. -/
def ofTexts (d : Dict String) : Json := ofDict .str d

/-- A list of texts. -/
def ofTextList (l : List String) : Json := .arr (l.map .str)

/-! ## Reading documents -/

/-- The member of the given name; the last one if several have it. -/
def get? (name : String) : Json → Option Json
  | .obj members => (members.reverse.find? (fun m => m.1 = name)).map Prod.snd
  | _ => none

/-- The text of a document that is a text. -/
def text? : Json → Option String
  | .str s => some s
  | _ => none

end Json

end TenantFleet
