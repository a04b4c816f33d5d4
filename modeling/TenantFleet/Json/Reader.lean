/-
# Reading values from documents

A reader turns what is written into a value or refuses it. Records are read from objects, where a
known member may not be written twice and unknown members are ignored, or from lists that give the
members in order. A part without a value is refused where it is looked at, so an unknown member may
be anything.

* `Reader.required`, `Reader.optional`, `Reader.defaulted` : one member of a record.
-/
import TenantFleet.Json.Written

namespace TenantFleet

/-- A reader of documents. -/
abbrev Reader (α : Type) := Json.Written → Option α

namespace Reader

variable {α : Type}

/-! ## Plain values -/

/-- A text. -/
def text : Reader String
  | .str s => some s
  | _ => none

/-- A truth value. -/
def bool : Reader Bool
  | .bool b => some b
  | _ => none

/-- An integer within bounds. -/
def intIn (lo hi : Int) : Reader Int
  | .num (.int n) => if lo ≤ n ∧ n ≤ hi then some n else none
  | _ => none

/-- A signed integer of 32 bits. -/
def int32 : Reader Int := intIn (-(Nat.pow 2 31 : Int)) ((Nat.pow 2 31 : Int) - 1)

/-- A signed integer of 64 bits. -/
def int64 : Reader Int := intIn (-(Nat.pow 2 63 : Int)) ((Nat.pow 2 63 : Int) - 1)

/-- An unsigned integer of at most `bits` bits. -/
def natBits (bits : Nat) : Reader Nat
  | .num (.int n) => if 0 ≤ n ∧ n < (Nat.pow 2 bits : Int) then some n.toNat else none
  | _ => none

/-- Any document, in canonical form. -/
def any : Reader Json := fun x => x.value?.map Json.canonical

/-- A list of values. -/
def list (read : Reader α) : Reader (List α)
  | .arr items => items.mapM read
  | _ => none

/-- An object of values; of two members with one name the later one stays. -/
def dict (read : Reader α) : Reader (Dict α)
  | .obj members => do
    let entries ← members.mapM fun m => do return (m.1, ← read m.2)
    return Dict.ofList entries
  | _ => none

/-- An object of texts. -/
def texts : Reader (Dict String) := dict text

/-- A value, or null. -/
def nullable (read : Reader α) : Reader (Option α)
  | .null => some none
  | x => (read x).map some

/-! ## Records -/

/-- The members of a record as they were found. -/
abbrev Members := List (String × Json.Written)

/-- The value of the first member of the given name. -/
def find? (ms : Members) (name : String) : Option Json.Written :=
  (ms.find? (fun m => m.1 = name)).map Prod.snd

/-- Whether no name of the list is written twice. -/
def unique (names : List String) (ms : Members) : Bool :=
  names.all fun n => ms.countP (fun m => m.1 = n) ≤ 1

/-- The members of a record with the given names. -/
def members (names : List String) : Reader Members
  | .obj ms => if unique names ms then some ms else none
  | .arr items => if items.length ≤ names.length then some (names.zip items) else none
  | _ => none

/-- The members of a record that is written as an object. -/
def namedMembers (names : List String) : Reader Members
  | .obj ms => if unique names ms then some ms else none
  | _ => none

/-- The members of an object; of two with one name the later one counts. -/
def lastMembers : Reader Members
  | .obj ms => some ms.reverse
  | _ => none

/-- A member that must be there. -/
def required (read : Reader α) (ms : Members) (name : String) : Option α :=
  (find? ms name).bind read

/-- The values of the members of the given name. -/
def values (ms : Members) (name : String) : List Json.Written :=
  (ms.filter fun m => m.1 = name).map Prod.snd

/-- A member that may be missing or null. Where it is written more than once the first one counts,
but all of them can be read. -/
def optional (read : Reader α) (ms : Members) (name : String) : Option (Option α) := do
  let found ← (values ms name).mapM (nullable read)
  return found.head?.join

/-- A member with a default; null is no value of it. -/
def defaulted (read : Reader α) (default : α) (ms : Members) (name : String) : Option α :=
  match find? ms name with
  | none => some default
  | some x => read x

/-- A member with a default that null also stands for. -/
def lenient (read : Reader α) (default : α) (ms : Members) (name : String) : Option α :=
  (optional read ms name).map (·.getD default)

/-- Checks that a member, if it is there, can be read. -/
def check (read : Reader α) (ms : Members) (name : String) : Option Unit :=
  (optional read ms name).map fun _ => ()

/-- A value that is only checked. -/
def unit (read : Reader α) : Reader Unit := fun x => (read x).map fun _ => ()

/-- Checks the members of a record. -/
def fields (shape : List (String × Reader Unit)) (ms : Members) : Option Unit :=
  shape.forM fun f => check f.2 ms f.1

/-- A record that is only checked. -/
def shape (members : List (String × Reader Unit)) : Reader Unit := fun x => do
  fields members (← lastMembers x)

/-- Whether a member, if it is there, has the given text. -/
def saysOnly (ms : Members) (name value : String) : Bool :=
  ms.all fun m => m.1 ≠ name || text m.2 = some value

/-- The members without the known ones, in canonical form. -/
def others (names : List String) (ms : Members) : Option (Dict Json) := do
  let entries ← (ms.filter fun m => m.1 ∉ names).mapM fun m => do return (m.1, ← any m.2)
  return Dict.ofList entries

end Reader

end TenantFleet
