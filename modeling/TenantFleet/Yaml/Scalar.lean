/-
# Scalars on one line or more

A scalar is plain or stands between quotes. Where it goes over a line, the break and the blanks
around it are folded: one break is a blank, and of more breaks the first one goes.

* `Gap.of` : blanks and breaks between two words, cut at the breaks;
* `Scalar.plain?` : a scalar without quotes;
* `Scalar.quoted?` : a scalar in single or double quotes.
-/
import TenantFleet.Yaml.Place

namespace TenantFleet.Yaml

/-! ## Gaps -/

/-- What stands between two words: blanks, and breaks with the blanks after each. -/
structure Gap where
  /-- The blanks before the first break. -/
  blanks : List Char := []
  /-- The breaks, each with the blanks after it. -/
  lines : List (Char × List Char) := []
  deriving DecidableEq, Inhabited

namespace Gap

/-- The gap with a break in front. -/
def breakBefore (c : Char) (g : Gap) : Gap := ⟨[], (c, g.blanks) :: g.lines⟩

/-- The gap that some blanks and breaks make up. -/
def of : List Char → Gap
  | [] => {}
  | '\r' :: '\n' :: rest => (of rest).breakBefore '\n'
  | c :: rest =>
    let g := of rest
    if isBreak c then g.breakBefore (breakText c) else { g with blanks := c :: g.blanks }

/-- Whether there is a break in the gap. -/
def broken (g : Gap) : Bool := !g.lines.isEmpty

/-- The characters that breaks stand for when they are folded. -/
def folded : List Char → List Char
  | [] => []
  | '\n' :: [] => [' ']
  | '\n' :: more => more
  | breaks => breaks

/-- The characters that the gap stands for. -/
def text (g : Gap) : List Char := if g.broken then folded (g.lines.map Prod.fst) else g.blanks

/-- The characters that the gap stands for behind a break that does not count. -/
def textAfterBreak (g : Gap) : List Char := g.lines.map Prod.fst

/-- Whether a tab stands where a line has to be indented by at least `indent` blanks. -/
def badTab (indent : Nat) (g : Gap) : Bool :=
  g.lines.any fun l => (l.2.take indent).contains '\t'

end Gap

/-- The blanks and breaks at a place, and the place behind them. -/
def Place.gap (p : Place) : Gap × Place :=
  let run := p.rest.takeWhile isGap
  (.of run, p.forward run.length)

/-! ## Plain scalars -/

/-- How a scalar is written. -/
inductive Style
  | plain
  | singleQuoted
  | doubleQuoted
  | literal
  | folded
  deriving DecidableEq, Inhabited

namespace Scalar

/-- The characters that list and map in one line. -/
def isFlowMark (c : Char) : Bool := c = ',' || c = '[' || c = ']' || c = '\x7b' || c = '\x7d'

/-- The plain word at the head of a text; within brackets a colon must not stand before one of
them. -/
def plainWord? (flow : Bool) : List Char → Option (List Char)
  | [] => some []
  | c :: rest =>
    if isGap c then some []
    else if flow && c = ':' && rest.head?.any (fun d => isFlowMark d || d = '?') then none
    else if c = ':' && atGap rest then some []
    else if flow && isFlowMark c then some []
    else (plainWord? flow rest).map (c :: ·)

/-- The words of a plain scalar from a place on, with the place behind them and whether a line began
there; `before` is the gap in front of the next word. -/
def plainFrom (flow : Bool) (indent : Nat) :
    Nat → Gap → Place → Option (List Char × Place × Bool)
  | 0, _, _ => none
  | fuel + 1, before, p =>
    if p.atBoundary || p.rest.head? = some '#' then some ([], p, before.broken)
    else do
      let word ← plainWord? flow p.rest
      if word.isEmpty then return ([], p, before.broken)
      else
        let (gap, next) := (p.forward word.length).gap
        let text := before.text ++ word
        if gap.badTab indent then none
        else if !flow && next.column < indent then return (text, next, gap.broken)
        else
          let (more, last, fresh) ← plainFrom flow indent fuel gap next
          return (text ++ more, last, fresh)

/-- The plain scalar at a place, the place behind it, and whether a line began behind it. Outside of
brackets its lines are indented by at least `indent` characters. -/
def plain? (flow : Bool) (indent : Nat) (p : Place) : Option (String × Place × Bool) :=
  (plainFrom flow indent (p.rest.length + 1) {} p).map fun (text, last, fresh) =>
    (String.ofList text, last, fresh)

/-! ## Quoted scalars -/

/-- The character that a letter behind a backslash stands for. -/
def escape? (c : Char) : Option Char :=
  match c with
  | '0' => some '\x00'
  | 'a' => some '\x07'
  | 'b' => some '\x08'
  | 't' => some '\t'
  | '\t' => some '\t'
  | 'n' => some '\n'
  | 'v' => some '\x0b'
  | 'f' => some '\x0c'
  | 'r' => some '\r'
  | 'e' => some '\x1b'
  | ' ' => some ' '
  | '"' => some '"'
  | '/' => some '/'
  | '\\' => some '\\'
  | 'N' => some '\u0085'
  | '_' => some '\u00a0'
  | 'L' => some '\u2028'
  | 'P' => some '\u2029'
  | _ => none

/-- The number of hexadecimal digits behind a letter that announces a code point. -/
def codeLength? (c : Char) : Option Nat :=
  match c with
  | 'x' => some 2
  | 'u' => some 4
  | 'U' => some 8
  | _ => none

/-- The value of a hexadecimal digit. -/
def hexDigit? (c : Char) : Option Nat :=
  if c.isDigit then some (c.toNat - '0'.toNat)
  else if 'a' ≤ c ∧ c ≤ 'f' then some (c.toNat - 'a'.toNat + 10)
  else if 'A' ≤ c ∧ c ≤ 'F' then some (c.toNat - 'A'.toNat + 10)
  else none

/-- The character of a code point that is written with the given digits. -/
def codePoint? (length : Nat) (digits : List Char) : Option Char := do
  let ds ← digits.mapM hexDigit?
  let n := ds.foldl (fun n d => n * 16 + d) 0
  if ds.length = length ∧ n.isValidChar then return Char.ofNat n else none

/-- Where a word between quotes ends. -/
inductive WordEnd
  /-- Before the quote that closes the scalar. -/
  | quote
  /-- Before a blank, a break or the end of the text. -/
  | gap
  /-- Before a backslash in front of a break. -/
  | hiddenBreak
  deriving DecidableEq, Inhabited

/-- The next character of a word, and the number of characters it is written with. -/
def unit? (single : Bool) : List Char → Option (Char × Nat)
  | [] => none
  | '\\' :: rest =>
    if single then some ('\\', 1)
    else match rest with
      | [] => none
      | c :: rest =>
        match codeLength? c with
        | some n => (codePoint? n (rest.take n)).map (·, n + 2)
        | none => (escape? c).map (·, 2)
  | c :: _ => some (c, if single && c = '\'' then 2 else 1)

/-- The characters of a word between quotes, the number of characters they are written with, and
where the word ends. -/
def quotedWord? (single : Bool) : Nat → List Char → Option (List Char × Nat × WordEnd)
  | 0, _ => none
  | fuel + 1, cs =>
    let quote := if single then '\'' else '"'
    let doubled := single && cs.take 2 = ['\'', '\'']
    let hidden := !single && cs.head? = some '\\' && cs.tail.head?.any isBreak
    if atGap cs then some ([], 0, .gap)
    else if cs.head? = some quote && !doubled then some ([], 0, .quote)
    else if hidden then some ([], 0, .hiddenBreak)
    else do
      let (c, n) ← unit? single cs
      let (more, m, stop) ← quotedWord? single fuel (cs.drop n)
      return (c :: more, n + m, stop)

/-- The words of a quoted scalar from a place on, and the place behind the closing quote. -/
def quotedFrom (single : Bool) : Nat → Place → Option (List Char × Place)
  | 0, _ => none
  | fuel + 1, p =>
    if p.atBoundary || p.rest.isEmpty then none
    else do
      let (word, n, stop) ← quotedWord? single (p.rest.length + 1) p.rest
      let p := p.forward n
      let hidden := stop = .hiddenBreak
      let start := if hidden then (p.forward 1).pastBreak else p
      let closed := start.rest.head? = some (if single then '\'' else '"')
      if closed then return (word, start.forward 1)
      else
        let (gap, next) := start.gap
        let (more, last) ← quotedFrom single fuel next
        return (word ++ (if hidden then gap.textAfterBreak else gap.text) ++ more, last)

/-- The quoted scalar whose first quote stands at a place, and the place behind it. -/
def quoted? (single : Bool) (p : Place) : Option (String × Place) :=
  (quotedFrom single (p.rest.length + 1) (p.forward 1)).map fun (text, last) =>
    (String.ofList text, last)

end Scalar

end TenantFleet.Yaml
