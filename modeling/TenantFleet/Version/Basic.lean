/-
# Semantic versions

A version has three numbers, pre-release identifiers and build identifiers. Versions are totally
ordered: by the numbers, then a pre-release before its release, then by the build identifiers, of
which none comes before any.

* `Version.parse?` : the version of a text;
* `Version.text` : the text of a version;
* `Version.compare` : the order.
-/
import TenantFleet.Text.Unsigned

namespace TenantFleet

/-- A semantic version. -/
structure Version where
  /-- The first number. -/
  major : Nat
  /-- The second number. -/
  minor : Nat
  /-- The third number. -/
  patch : Nat
  /-- The pre-release identifiers. -/
  pre : List String
  /-- The build identifiers. -/
  build : List String
  deriving DecidableEq, Inhabited

namespace Version

/-! ## Reading -/

/-- Whether a character may stand in an identifier. -/
def isIdentifierChar (c : Char) : Bool := c.isAlphanum || c = '-'

/-- The number at the head of a text: no leading zero, below `2 ^ 64`. -/
def number? (cs : List Char) : Option (Nat × List Char) :=
  let ds := cs.takeWhile Char.isDigit
  match ds with
  | [] => none
  | '0' :: _ :: _ => none
  | _ =>
    match Unsigned.digits maxUInt64 0 ds with
    | .ok n => some (n, cs.dropWhile Char.isDigit)
    | .error _ => none

/-- The text after a point. -/
def afterDot? : List Char → Option (List Char)
  | '.' :: rest => some rest
  | _ => none

/-- The pieces of a text between its points. -/
def splitDots (cs : List Char) : List (List Char) :=
  cs.foldr (fun c acc =>
    match acc with
    | [] => [[c]]
    | piece :: rest => if c = '.' then [] :: piece :: rest else (c :: piece) :: rest) [[]]

/-- Whether a number has a zero in front. -/
def hasLeadingZero (piece : List Char) : Bool :=
  piece.all Char.isDigit && 1 < piece.length && piece.head? = some '0'

/-- The identifiers of a list of pieces, none of which may be empty; with `strict` set, a number may
have no zero in front. -/
def identifiers? (strict : Bool) (pieces : List (List Char)) : Option (List String) :=
  if pieces.any List.isEmpty then none
  else if strict && pieces.any hasLeadingZero then none
  else some (pieces.map String.ofList)

/-- The identifiers at the head of a text. -/
def leadingIdentifiers? (strict : Bool) (cs : List Char) : Option (List String × List Char) := do
  let accepted (c : Char) : Bool := isIdentifierChar c || c = '.'
  let ids ← identifiers? strict (splitDots (cs.takeWhile accepted))
  return (ids, cs.dropWhile accepted)

/-- The version of a text. -/
def parse? (text : String) : Option Version := do
  let (major, rest) ← number? text.toList
  let rest ← afterDot? rest
  let (minor, rest) ← number? rest
  let rest ← afterDot? rest
  let (patch, rest) ← number? rest
  let (pre, rest) ←
    match rest with
    | '-' :: r => leadingIdentifiers? true r
    | r => some ([], r)
  let (build, rest) ←
    match rest with
    | '+' :: r => leadingIdentifiers? false r
    | r => some ([], r)
  if rest.isEmpty then return ⟨major, minor, patch, pre, build⟩ else none

/-! ## Writing -/

/-- The text of a version. -/
def text (v : Version) : String :=
  let pre := if v.pre.isEmpty then "" else "-" ++ ".".intercalate v.pre
  let build := if v.build.isEmpty then "" else "+" ++ ".".intercalate v.build
  toString v.major ++ "." ++ toString v.minor ++ "." ++ toString v.patch ++ pre ++ build

/-! ## Order -/

/-- Whether an identifier is a number. -/
def isNumeric (s : String) : Bool := s.toList.all Char.isDigit

/-- Orders texts by their characters. -/
def compareText (a b : String) : Ordering :=
  if a < b then .lt else if b < a then .gt else .eq

/-- Orders numbers without leading zeros by length, then by their digits. -/
def compareDigits (a b : String) : Ordering :=
  (compareOfLessAndEq a.length b.length).then (compareText a b)

/-- A number without its leading zeros. -/
def withoutZeros (s : String) : String := String.ofList (s.toList.dropWhile (· = '0'))

/-- Orders build numbers by value, then by the count of leading zeros. -/
def compareBuildNumbers (a b : String) : Ordering :=
  (compareDigits (withoutZeros a) (withoutZeros b)).then (compareOfLessAndEq a.length b.length)

/-- Orders two identifiers: numbers before words, words by their characters. -/
def compareIdentifier (numbers : String → String → Ordering) (a b : String) : Ordering :=
  match isNumeric a, isNumeric b with
  | true, true => numbers a b
  | true, false => .lt
  | false, true => .gt
  | false, false => compareText a b

/-- Orders lists of identifiers item by item, the shorter list first. -/
def compareIdentifiers (numbers : String → String → Ordering) :
    List String → List String → Ordering
  | [], [] => .eq
  | [], _ :: _ => .lt
  | _ :: _, [] => .gt
  | a :: as, b :: bs => (compareIdentifier numbers a b).then (compareIdentifiers numbers as bs)

/-- Orders pre-release identifiers; a release comes after all its pre-releases. -/
def comparePre (a b : List String) : Ordering :=
  match a, b with
  | [], [] => .eq
  | [], _ :: _ => .gt
  | _ :: _, [] => .lt
  | a, b => compareIdentifiers compareDigits a b

/-- The order of versions. -/
def compare (a b : Version) : Ordering :=
  (compareOfLessAndEq a.major b.major).then <|
  (compareOfLessAndEq a.minor b.minor).then <|
  (compareOfLessAndEq a.patch b.patch).then <|
  (comparePre a.pre b.pre).then (compareIdentifiers compareBuildNumbers a.build b.build)

/-- Whether one version comes before another. -/
def older (a b : Version) : Bool := a.compare b = .lt

end Version

end TenantFleet
