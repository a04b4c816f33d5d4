/-
# Socket addresses

An address with a port, `1.2.3.4:80` or `[::1]:80`. Reading takes every accepted spelling; writing
gives the normal one, with the longest run of zero groups of a long address left out.

* `SocketAddress.parse?` and `SocketAddress.text`.
-/

namespace TenantFleet

/-- The address of a listening socket. -/
inductive SocketAddress
  /-- Four bytes and a port. -/
  | v4 (bytes : List Nat) (port : Nat)
  /-- Eight groups of 16 bits, a scope and a port. -/
  | v6 (groups : List Nat) (scope port : Nat)
  deriving DecidableEq, Inhabited

namespace SocketAddress

/-! ## Reading -/

/-- The value of a digit in a base of at most sixteen. -/
def digit? (base : Nat) (c : Char) : Option Nat :=
  let v :=
    if c.isDigit then some (c.toNat - '0'.toNat)
    else if 'a' ≤ c ∧ c ≤ 'f' then some (c.toNat - 'a'.toNat + 10)
    else if 'A' ≤ c ∧ c ≤ 'F' then some (c.toNat - 'A'.toNat + 10)
    else none
  v.filter (· < base)

/-- The value of digits. -/
def valueOf (base : Nat) (digits : List Char) : Nat :=
  digits.foldl (fun n c => n * base + (digit? base c).getD 0) 0

/-- A number below a limit of any number of digits, and what follows. -/
def number? (base limit : Nat) (cs : List Char) : Option (Nat × List Char) :=
  let digits := cs.takeWhile fun c => (digit? base c).isSome
  let n := valueOf base digits
  if digits.isEmpty ∨ limit ≤ n then none else some (n, cs.drop digits.length)

/-- A group of one to four hexadecimal digits, and what follows. -/
def group? (cs : List Char) : Option (Nat × List Char) :=
  let digits := cs.takeWhile fun c => (digit? 16 c).isSome
  if digits.isEmpty ∨ 4 < digits.length then none
  else some (valueOf 16 digits, cs.drop digits.length)

/-- A byte without leading zeros, and what follows. -/
def byte? (cs : List Char) : Option (Nat × List Char) := do
  let (n, rest) ← number? 10 256 cs
  if cs.length - rest.length > 1 ∧ cs.head? = some '0' then none
  else if cs.length - rest.length > 3 then none
  else some (n, rest)

/-- One given character, and what follows. -/
def skip? (c : Char) : List Char → Option (List Char)
  | d :: rest => if c = d then some rest else none
  | [] => none

/-- Four bytes with points between them, and what follows. -/
def bytes? (cs : List Char) : Option (List Nat × List Char) := do
  let (a, cs) ← byte? cs
  let (b, cs) ← byte? (← skip? '.' cs)
  let (c, cs) ← byte? (← skip? '.' cs)
  let (d, cs) ← byte? (← skip? '.' cs)
  return ([a, b, c, d], cs)

/-- What follows the colon in front of every group but the first. -/
def separated? (first : Bool) (cs : List Char) : Option (List Char) :=
  if first then some cs else skip? ':' cs

/-- At most `limit` groups with colons between them, whether four bytes stand for the last two, and
what follows. -/
def groups : Nat → Bool → List Char → List Nat × Bool × List Char
  | 0, _, cs => ([], false, cs)
  | limit + 1, first, cs =>
    let short := if limit = 0 then none else (separated? first cs).bind bytes?
    match short with
    | some (bytes, rest) =>
      match bytes with
      | [a, b, c, d] => ([a * 256 + b, c * 256 + d], true, rest)
      | _ => ([], false, cs)
    | none =>
      match (separated? first cs).bind group? with
      | none => ([], false, cs)
      | some (g, rest) =>
        let (more, short, rest) := groups limit false rest
        (g :: more, short, rest)

/-- Eight groups, where a run of zeros may be left out, and what follows. -/
def address? (cs : List Char) : Option (List Nat × List Char) :=
  let (front, short, rest) := groups 8 true cs
  if front.length = 8 then some (front, rest)
  else if short then none
  else do
    let rest ← skip? ':' (← skip? ':' rest)
    let (back, _, rest) := groups (7 - front.length) true rest
    return (front ++ List.replicate (8 - front.length - back.length) 0 ++ back, rest)

/-- The port behind an address, with nothing after it. -/
def port? (cs : List Char) : Option Nat := do
  let (port, rest) ← number? 10 65536 (← skip? ':' cs)
  if rest.isEmpty then some port else none

/-- The scope behind an address; zero if there is none. -/
def scope? (cs : List Char) : Option (Nat × List Char) :=
  match cs with
  | '%' :: rest => number? 10 (Nat.pow 2 32) rest
  | _ => some (0, cs)

/-- Reads a socket address. -/
def parse? (s : String) : Option SocketAddress :=
  let cs := s.toList
  let short := do
    let (bytes, rest) ← bytes? cs
    return .v4 bytes (← port? rest)
  short <|> do
    let (groups, rest) ← address? (← skip? '[' cs)
    let (scope, rest) ← scope? rest
    return .v6 groups scope (← port? (← skip? ']' rest))

/-! ## Writing -/

/-- The digits of a number in base sixteen. -/
def hex (n : Nat) : String := String.ofList (Nat.toDigits 16 n)

/-- Four bytes with points between them. -/
def bytesText (bytes : List Nat) : String := ".".intercalate (bytes.map toString)

/-- Groups with colons between them. -/
def groupsText (gs : List Nat) : String := ":".intercalate (gs.map hex)

/-- The number of zeros at the start. -/
def zeros (gs : List Nat) : Nat := (gs.takeWhile (· = 0)).length

/-- Where the first longest run of zeros starts, and its length. -/
def longestRun (gs : List Nat) : Nat × Nat :=
  (List.range gs.length).foldl (fun best i =>
    let n := zeros (gs.drop i)
    if n > best.2 then (i, n) else best) (0, 0)

/-- The normal text of eight groups. -/
def addressText (gs : List Nat) : String :=
  match gs with
  | [0, 0, 0, 0, 0, 0xffff, a, b] =>
    "::ffff:" ++ bytesText [a / 256, a % 256, b / 256, b % 256]
  | _ =>
    let (start, length) := longestRun gs
    if length > 1 then groupsText (gs.take start) ++ "::" ++ groupsText (gs.drop (start + length))
    else groupsText gs

/-- The normal text of a socket address. -/
def text : SocketAddress → String
  | .v4 bytes port => bytesText bytes ++ ":" ++ toString port
  | .v6 groups scope port =>
    "[" ++ addressText groups ++ (if scope = 0 then "" else "%" ++ toString scope) ++ "]:" ++
      toString port

end SocketAddress

end TenantFleet
