/-
# Scalars in blocks

A scalar in a block has lines of its own, indented deeper than what it belongs to. Its lines stay as
they are, or are folded where neither of two of them begins with a blank. A sign behind the mark
says what happens to the breaks at its end, and a digit how deep the block is indented; else the
first line shows it.

* `Literal.scan?` : the scalar of a block.
-/
import TenantFleet.Yaml.Scalar

namespace TenantFleet.Yaml.Literal

/-! ## Headers -/

/-- What happens to the breaks at the end of a block. -/
inductive Chomping
  /-- All of them go. -/
  | strip
  /-- One of them stays. -/
  | clip
  /-- All of them stay. -/
  | keep
  deriving DecidableEq, Inhabited

/-- The sign at the head of a text. -/
def sign? : List Char → Option Chomping
  | '+' :: _ => some .keep
  | '-' :: _ => some .strip
  | _ => none

/-- The digit at the head of a text. -/
def digit? : List Char → Option Nat
  | c :: _ => if c.isDigit then some (c.toNat - '0'.toNat) else none
  | [] => none

/-- The sign and the digit behind the mark of a block, in either order, and the place behind them;
zero is no depth. -/
def header? (p : Place) : Option (Chomping × Option Nat × Place) :=
  let (sign, depth, p) :=
    match sign? p.rest, digit? p.rest with
    | some s, _ =>
      let p := p.forward 1
      match digit? p.rest with
      | some d => (some s, some d, p.forward 1)
      | none => (some s, none, p)
    | none, some d =>
      let p := p.forward 1
      match sign? p.rest with
      | some s => (some s, some d, p.forward 1)
      | none => (none, some d, p)
    | none, none => (none, none, p)
  if depth = some 0 then none else some (sign.getD .clip, depth, p)

/-! ## Empty lines -/

/-- The breaks of the empty lines at a place, the greatest column that was reached, and the place
behind them. Blanks are indentation up to the given column, or all of them where it is not known. No
tab may stand there. -/
def emptyLines (depth : Option Nat) : Nat → Nat → Place → Option (List Char × Nat × Place)
  | 0, _, _ => none
  | fuel + 1, reached, p =>
    let blanks := (p.rest.takeWhile (· = ' ')).length
    let p := p.forward (match depth with
      | some d => min blanks (d - p.column)
      | none => blanks)
    let reached := max reached p.column
    let indented := depth.any (· ≤ p.column)
    if !indented && p.rest.head? = some '\t' then none
    else if p.breakHere.isEmpty then some ([], reached, p)
    else do
      let (more, reached, last) ← emptyLines depth fuel reached p.pastBreak
      return (p.breakHere ++ more, reached, last)

/-! ## Lines -/

/-- The break between two lines of a folded block, of which the second follows empty lines or
not. -/
def between (folds : Bool) (last empty : List Char) : List Char :=
  if folds && last = ['\n'] then (if empty.isEmpty then [' '] else []) else last

/-- The lines of a block from a place on and what happens to the breaks at its end, with the place
behind them. `last` is the break before the first of them and `empty` are those of the empty lines
after it; `blank` says whether the line before began with a blank. -/
def lines (folded : Bool) (chomping : Chomping) (depth : Nat) :
    Nat → (last empty : List Char) → (blank : Bool) → Place → Option (List Char × Place)
  | 0, _, _, _, _ => none
  | fuel + 1, last, empty, blank, p =>
    if p.column = depth && !p.rest.isEmpty then do
      let startsBlank := p.rest.head?.any isBlank
      let content := p.rest.takeWhile fun c => !isBreak c
      let lineEnd := p.forward content.length
      let (more, _, next) ← emptyLines (some depth) (p.rest.length + 1) 0 lineEnd.pastBreak
      let (text, stop) ← lines folded chomping depth fuel lineEnd.breakHere more startsBlank next
      return (between (folded && !blank && !startsBlank) last empty ++ empty ++
        content ++ text, stop)
    else
      match chomping with
      | .strip => return ([], p)
      | .clip => return (last, p)
      | .keep => return (last ++ empty, p)

/-- The scalar of the block whose mark stands at a place, and the place behind it. `parent` is the
indentation of what the block belongs to. -/
def scan? (folded : Bool) (parent : Option Nat) (p : Place) : Option (String × Place) := do
  let (chomping, depth, p) ← header? (p.forward 1)
  let p := (← p.lineEnd?).pastBreak
  let given := depth.map (parent.getD 0 + ·)
  let (empty, reached, p) ← emptyLines given (p.rest.length + 1) 0 p
  let least := match parent with
    | some n => n + 1
    | none => 1
  let depth := given.getD (max reached least)
  let (text, last) ← lines folded chomping depth (p.rest.length + 1) [] empty false p
  return (String.ofList text, last)

end TenantFleet.Yaml.Literal
