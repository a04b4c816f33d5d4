/-
# Documents as they are written

A text can have the form of a document although a part of it stands for no value: a number beyond
the largest floating point number, a text with half of a surrogate pair, or lists and objects that
are nested too deep. Such parts do no harm as long as nobody looks at them, so they are kept as
unreadable.

* `Json.Written.value?` : the document that stands there, when every part of it stands for a value;
* `Json.written` : the form of a document.
-/
import TenantFleet.Json.Basic

namespace TenantFleet.Json

/-- A document as it is written, of which parts may stand for no value. -/
inductive Written
  | null
  | bool (b : Bool)
  | num (n : Number)
  | str (s : String)
  | arr (items : List Written)
  | obj (members : List (String × Written))
  | unreadable
  deriving Inhabited

/-! ## The value of what is written -/

namespace Written

mutual

/-- The document that stands there, when every part of it stands for a value. -/
def value? : Written → Option Json
  | .null => some .null
  | .bool b => some (.bool b)
  | .num n => some (.num n)
  | .str s => some (.str s)
  | .arr items => (itemsValue? items).map .arr
  | .obj members => (membersValue? members).map .obj
  | .unreadable => none

/-- The values of the items of a list. -/
def itemsValue? : List Written → Option (List Json)
  | [] => some []
  | x :: rest => do return (← value? x) :: (← itemsValue? rest)

/-- The members with their values. -/
def membersValue? : List (String × Written) → Option (List (String × Json))
  | [] => some []
  | (k, x) :: rest => do return (k, ← value? x) :: (← membersValue? rest)

end

end Written

/-! ## The form of a document -/

mutual

/-- The form of a document. -/
def written : Json → Written
  | .null => .null
  | .bool b => .bool b
  | .num n => .num n
  | .str s => .str s
  | .arr items => .arr (writtenItems items)
  | .obj members => .obj (writtenMembers members)

/-- The forms of the items of a list. -/
def writtenItems : List Json → List Written
  | [] => []
  | x :: rest => written x :: writtenItems rest

/-- The members with the forms of their values. -/
def writtenMembers : List (String × Json) → List (String × Written)
  | [] => []
  | (k, x) :: rest => (k, written x) :: writtenMembers rest

end

instance : Coe Json Written := ⟨written⟩

mutual

/-- A document is the value of its form. -/
@[simp] theorem value?_written : (x : Json) → x.written.value? = some x
  | .null | .bool _ | .num _ | .str _ => by simp [written, Written.value?]
  | .arr items => by simp [written, Written.value?, itemsValue?_written items]
  | .obj members => by simp [written, Written.value?, membersValue?_written members]

/-- Items are the values of their forms. -/
@[simp] theorem itemsValue?_written :
    (l : List Json) → Written.itemsValue? (writtenItems l) = some l
  | [] => by simp [writtenItems, Written.itemsValue?]
  | x :: rest => by
    simp [writtenItems, Written.itemsValue?, value?_written x, itemsValue?_written rest]

/-- Members have the values of their forms. -/
@[simp] theorem membersValue?_written :
    (l : List (String × Json)) → Written.membersValue? (writtenMembers l) = some l
  | [] => by simp [writtenMembers, Written.membersValue?]
  | (k, x) :: rest => by
    simp [writtenMembers, Written.membersValue?, value?_written x, membersValue?_written rest]

end

end TenantFleet.Json
