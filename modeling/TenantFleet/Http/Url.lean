/-
# Addresses of web requests

An address is a path, a server, or a scheme, a server and a path. A path goes into a request only if
it is made of characters that may stand there.

* `UrlPath.valid` : whether a text can be asked for as a path;
* `Url.parse?` : reads an address.
-/

namespace TenantFleet

/-! ## Paths -/

namespace UrlPath

/-- Whether a character may stand in a path as it is. -/
def allowedInPath (c : Char) : Bool :=
  0x7f ≤ c.toNat ||
    (0x20 < c.toNat && c ∉ ['#', '<', '>', '?', '\x60'])

/-- Whether a character may stand behind the question mark. -/
def allowedInQuery (c : Char) : Bool :=
  0x7f ≤ c.toNat || (0x20 < c.toNat && c ∉ ['"', '#', '<', '>'])

/-- The longest address, in bytes. -/
def maxBytes : Nat := 65534

/-- Whether a text has the form of a path, with a query or without; what follows a number sign does
not count. -/
def valid (s : String) : Bool :=
  let shown := s.toList.takeWhile (· ≠ '#')
  let path := shown.takeWhile (· ≠ '?')
  s.utf8ByteSize ≤ maxBytes && path.all allowedInPath &&
    (shown.drop (path.length + 1)).all allowedInQuery

/-- What stands before the query and the number sign. -/
def bare (cs : List Char) : List Char := cs.takeWhile fun c => c ∉ ['?', '#']

end UrlPath

/-! ## Servers -/

/-- What has been seen of a server, from the left on. -/
structure ServerMarks where
  /-- The colons since the last at sign and the closing bracket. -/
  colons : Nat := 0
  /-- Whether a bracket was opened. -/
  opened : Bool := false
  /-- Whether it was closed. -/
  closed : Bool := false
  /-- Whether there is a percent sign since the last at sign and the closing bracket. -/
  percent : Bool := false
  /-- Whether an at sign comes last. -/
  atSign : Bool := false
  deriving DecidableEq, Inhabited

namespace ServerMarks

/-- Whether a character stands for itself in a server. -/
def plain (c : Char) : Bool :=
  c.isAlphanum || c ∈ ['-', '.', '_', '~', '!', '$', '&', '\'', '(', ')', '*', '+', ',', ';', '=']

/-- What has been seen after one more character, if it may stand there. -/
def next (m : ServerMarks) (c : Char) : Option ServerMarks :=
  let m := { m with atSign := false }
  if c = ':' then (if m.colons < 8 then some { m with colons := m.colons + 1 } else none)
  else if c = '[' then (if m.percent || m.opened then none else some { m with opened := true })
  else if c = ']' then
    (if m.opened && !m.closed then some { m with closed := true, colons := 0, percent := false }
     else none)
  else if c = '@' then some { m with atSign := true, colons := 0, percent := false }
  else if c = '%' then some { m with percent := true }
  else if plain c then some m
  else none

/-- Whether a server may end here: with its bracket closed, at most one colon before the port, and a
name. -/
def complete (m : ServerMarks) : Bool :=
  m.opened == m.closed && m.colons ≤ 1 && !m.atSign && !m.percent

end ServerMarks

/-! ## Whole addresses -/

/-- An address. -/
structure Url where
  /-- The scheme, if there is one. -/
  scheme : Option String := none
  /-- The server; empty when the address is a path alone. -/
  server : String := ""
  /-- The path without the query; empty when the address is a server alone. -/
  path : String := ""
  deriving DecidableEq, Inhabited

namespace Url

/-- Whether a text names a server. -/
def validServer (cs : List Char) : Bool :=
  !cs.isEmpty && (cs.foldlM ServerMarks.next {}).any ServerMarks.complete

/-- Whether a character may stand in the name of a scheme. -/
def inScheme (c : Char) : Bool := c.isAlphanum || c ∈ ['+', '-', '.', '~']

/-- The scheme at the head of a text and what follows its mark. -/
def scheme? (cs : List Char) : Option (List Char × List Char) :=
  match cs.dropWhile inScheme with
  | ':' :: '/' :: '/' :: rest => some (cs.takeWhile inScheme, rest)
  | _ => none

/-- The longest name of a scheme. -/
def maxScheme : Nat := 64

/-- The address behind a scheme. -/
def behindScheme? (scheme rest : List Char) : Option Url :=
  let server := rest.takeWhile fun c => c ∉ ['/', '?', '#']
  let path := rest.drop server.length
  if scheme.length ≤ maxScheme ∧ validServer server ∧ UrlPath.valid (String.ofList path) then
    some ⟨some (String.ofList scheme), String.ofList server,
      String.ofList (match UrlPath.bare path with | [] => ['/'] | p => p)⟩
  else none

/-- The address that a text holds. -/
def parse? (s : String) : Option Url :=
  let cs := s.toList
  if s.utf8ByteSize > UrlPath.maxBytes then none
  else if cs = ['*'] then some { path := s }
  else if cs.head? = some '/' then
    (if UrlPath.valid s then some { path := String.ofList (UrlPath.bare cs) } else none)
  else match scheme? cs with
    | some (scheme, rest) => behindScheme? scheme rest
    | none => if validServer cs then some { server := s } else none

/-- Whether a text is an address. -/
def valid (s : String) : Bool := (parse? s).isSome

end Url

end TenantFleet
