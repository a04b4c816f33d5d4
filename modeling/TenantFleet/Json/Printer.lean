/-
# Writing JSON

Documents are written without blanks, members in the order they are listed. Texts escape the quote,
the backslash and the control characters below the blank.

* `Json.render` : the text of a document;
* `Json.normalText` : the text of its canonical form, which member order and blanks do not change.
-/
import TenantFleet.Json.Basic

namespace TenantFleet.Json

/-- The lowercase hexadecimal digit of a value below sixteen. -/
def hexChar (n : Nat) : Char :=
  if n < 10 then Char.ofNat ('0'.toNat + n) else Char.ofNat ('a'.toNat + (n - 10))

/-- A character as it stands inside a quoted text. -/
def escapeChar (c : Char) : List Char :=
  match c with
  | '"' => ['\\', '"']
  | '\\' => ['\\', '\\']
  | '\x08' => ['\\', 'b']
  | '\x0c' => ['\\', 'f']
  | '\n' => ['\\', 'n']
  | '\r' => ['\\', 'r']
  | '\t' => ['\\', 't']
  | c =>
    if c.toNat < 0x20 then ['\\', 'u', '0', '0', hexChar (c.toNat / 16), hexChar (c.toNat % 16)]
    else [c]

/-- A text in quotes. -/
def quote (s : String) : List Char := '"' :: (s.toList.flatMap escapeChar ++ ['"'])

/-- The text of a number. -/
def numberText : Number → List Char
  | .int n => (toString n).toList
  | .real x => x.render.toList

mutual

/-- The characters of a document. -/
def renderChars : Json → List Char
  | .null => ['n', 'u', 'l', 'l']
  | .bool true => ['t', 'r', 'u', 'e']
  | .bool false => ['f', 'a', 'l', 's', 'e']
  | .num n => numberText n
  | .str s => quote s
  | .arr [] => ['[', ']']
  | .arr (x :: rest) => '[' :: (renderChars x ++ renderItems rest)
  | .obj [] => ['\x7b', '\x7d']
  | .obj ((k, x) :: rest) => '\x7b' :: (quote k ++ ':' :: (renderChars x ++ renderMembers rest))

/-- The items after the first one and the end of the list. -/
def renderItems : List Json → List Char
  | [] => [']']
  | x :: rest => ',' :: (renderChars x ++ renderItems rest)

/-- The members after the first one and the end of the object. -/
def renderMembers : List (String × Json) → List Char
  | [] => ['\x7d']
  | (k, x) :: rest => ',' :: (quote k ++ ':' :: (renderChars x ++ renderMembers rest))

end

/-- The text of a document. -/
def render (x : Json) : String := String.ofList x.renderChars

/-- The text of the canonical form of a document. -/
def normalText (x : Json) : String := x.canonical.render

end TenantFleet.Json
