/-
# Reading JSON

The reader builds a document from tokens. It keeps members in the order they were written and twice
written ones twice, and refuses anything after the document. What is nested more than 127 deep has
no value, and neither has an object with a name that has none.

* `Json.Written.ofTokens?` : the form that a list of tokens spells;
* `Json.parse?` : the document of a text.
-/
import TenantFleet.Json.Token
import TenantFleet.Json.Written

namespace TenantFleet.Json

/-- How deep lists and objects may be nested. -/
def maxDepth : Nat := 127

namespace Written

/-- A list or an object, for which so many more levels are left. -/
def nested (depth : Nat) (x : Written) : Written := if depth = 0 then .unreadable else x

/-- An object of members whose names may have no value. -/
def ofMembers (ms : List (Option String × Written)) : Written :=
  match ms.mapM fun m => m.1.map fun k => (k, m.2) with
  | some ms => .obj ms
  | none => .unreadable

/-- A number, or what is none. -/
def ofNumber (n : Option Number) : Written := (n.map .num).getD .unreadable

/-- A text, or what is none. -/
def ofText (s : Option String) : Written := (s.map .str).getD .unreadable

mutual

/-- What is written at the head of the tokens, and the tokens after it. -/
def valueAt : Nat → Nat → List Token → Option (Written × List Token)
  | 0, _, _ => none
  | _ + 1, _, .null :: rest => some (.null, rest)
  | _ + 1, _, .bool b :: rest => some (.bool b, rest)
  | _ + 1, _, .num n :: rest => some (ofNumber n, rest)
  | _ + 1, _, .str s :: rest => some (ofText s, rest)
  | fuel + 1, depth, .openList :: rest =>
    match rest with
    | .closeList :: rest' => some (nested depth (.arr []), rest')
    | _ => (itemsAt fuel (depth - 1) rest).map fun r => (nested depth (.arr r.1), r.2)
  | fuel + 1, depth, .openObject :: rest =>
    match rest with
    | .closeObject :: rest' => some (nested depth (.obj []), rest')
    | _ => (membersAt fuel (depth - 1) rest).map fun r => (nested depth (ofMembers r.1), r.2)
  | _ + 1, _, _ => none

/-- The items up to the end of a list. -/
def itemsAt : Nat → Nat → List Token → Option (List Written × List Token)
  | 0, _, _ => none
  | fuel + 1, depth, tokens => do
    let (x, rest) ← valueAt fuel depth tokens
    match rest with
    | .comma :: rest' =>
      let (xs, rest'') ← itemsAt fuel depth rest'
      return (x :: xs, rest'')
    | .closeList :: rest' => return ([x], rest')
    | _ => none

/-- The members up to the end of an object. -/
def membersAt : Nat → Nat → List Token → Option (List (Option String × Written) × List Token)
  | 0, _, _ => none
  | fuel + 1, depth, .str k :: .colon :: rest => do
    let (x, rest') ← valueAt fuel depth rest
    match rest' with
    | .comma :: rest'' =>
      let (xs, rest''') ← membersAt fuel depth rest''
      return ((k, x) :: xs, rest''')
    | .closeObject :: rest'' => return ([(k, x)], rest'')
    | _ => none
  | _ + 1, _, _ => none

end

/-- The form that a list of tokens spells. -/
def ofTokens? (tokens : List Token) : Option Written :=
  match valueAt (2 * tokens.length + 1) maxDepth tokens with
  | some (x, []) => some x
  | _ => none

/-- The form of a text, members as they were written. -/
def parse? (text : String) : Option Written := (Token.scan text).bind ofTokens?

end Written

/-- The document of a text, members as they were written. -/
def parse? (text : String) : Option Json := (Written.parse? text).bind Written.value?

/-- The document of a text in canonical form. -/
def read? (text : String) : Option Json := (parse? text).map canonical

end TenantFleet.Json
