/-
# Blanks between tokens do not count

A text can be written with more or fewer blanks outside of its quoted texts. As long as it is the
text of a document, this changes none of its tokens: a quoted text ends at its quote, and no number
of a document is followed by another number.

* `squeeze` : a text without the blanks outside of quoted texts;
* `Lexeme` : the characters of a token;
* `scan_squeeze` : the tokens of a text without blanks;
* `parse?_of_squeeze` : texts that differ in such blanks alone are read alike.
-/
import TenantFleet.Json.Parser
import TenantFleet.Proofs.Json.Quoted
import TenantFleet.Proofs.Text.Numeral

namespace TenantFleet.Json

namespace Token

/-! ## Texts without blanks -/

mutual

/-- The characters outside of quoted texts that are no blanks, and the quoted texts. -/
def outside : List Char → List Char
  | [] => []
  | '"' :: rest => '"' :: inside rest
  | c :: rest => if isBlank c then outside rest else c :: outside rest

/-- The characters of a quoted text up to its closing quote, and what is outside behind it. -/
def inside : List Char → List Char
  | [] => []
  | '"' :: rest => '"' :: outside rest
  | '\\' :: c :: rest => '\\' :: c :: inside rest
  | c :: rest => c :: inside rest

end

/-- A text without the blanks outside of quoted texts. -/
def squeeze (text : String) : String := String.ofList (outside text.toList)

variable {c : Char} {cs front r r' : List Char} {fuel : Nat}

theorem outside_of_blank (h : isBlank c = true) (rest : List Char) :
    outside (c :: rest) = outside rest := by
  rw [outside, if_pos h]
  rintro rfl
  cases h

theorem outside_of_other (h : isBlank c = false) (hquote : c ≠ '"') (rest : List Char) :
    outside (c :: rest) = c :: outside rest := by
  rw [outside, if_neg (by rw [h]; exact Bool.false_ne_true)]
  exact hquote

theorem inside_of_other (hquote : c ≠ '"') (hslash : c ≠ '\\') (rest : List Char) :
    inside (c :: rest) = c :: inside rest := by
  rw [inside]
  · exact hquote
  · exact fun _ _ h => absurd h hslash

/-- Characters that are neither blanks nor quotes stay. -/
theorem outside_append (h : ∀ c ∈ front, isBlank c = false ∧ c ≠ '"') (r : List Char) :
    outside (front ++ r) = front ++ outside r := by
  induction front with
  | nil => rfl
  | cons c rest ih =>
    obtain ⟨hblank, hquote⟩ := h c List.mem_cons_self
    rw [List.cons_append, outside_of_other hblank hquote, ih fun x hx =>
      h x (List.mem_cons_of_mem c hx)]
    rfl

/-- A quoted text stays, whatever follows it. -/
theorem Spells.inside_append {p : Piece} (h : Spells front p) (r : List Char) :
    inside (front ++ r) = front ++ inside r := by
  cases h with
  | plain hquote hslash _ => exact inside_of_other hquote hslash r
  | escape _ =>
    show inside ('\\' :: _ :: r) = _
    rw [inside]
    rfl
  | @unit a b c d u h =>
    -- No digit is a quote or a backslash.
    have hdigit : ∀ x : Char, hexDigit? x ≠ none → x ≠ '"' ∧ x ≠ '\\' := by
      intro x hx
      refine ⟨?_, ?_⟩
      all_goals
        rintro rfl
        exact hx (by decide)
    simp only [unit?, Option.bind_eq_bind, Option.bind_eq_some_iff] at h
    obtain ⟨na, ha, nb, hb, nc, hc, nd, hd, -⟩ := h
    have hsome : ∀ {x : Char} {n : Nat}, hexDigit? x = some n → x ≠ '"' ∧ x ≠ '\\' := fun hx =>
      hdigit _ (by rw [hx]; exact Option.some_ne_none _)
    show inside ('\\' :: 'u' :: a :: b :: c :: d :: r) = _
    rw [inside, inside_of_other (hsome ha).1 (hsome ha).2,
      inside_of_other (hsome hb).1 (hsome hb).2,
      inside_of_other (hsome hc).1 (hsome hc).2, inside_of_other (hsome hd).1 (hsome hd).2]
    rfl

theorem SpellsText.inside_append {body : List Char} {ps : List Piece} (h : SpellsText body ps)
    (r : List Char) :
    inside (body ++ r) = body ++ outside r := by
  induction h with
  | close => rfl
  | piece hspells _ ih => rw [List.append_assoc, hspells.inside_append, ih, List.append_assoc]

/-! ## Numbers -/

/-- Whether what follows cannot belong to a number. -/
def Closes (r : List Char) : Prop := ∀ c ∈ r.head?, c.isDigit = false ∧ c ≠ '.' ∧ c ≠ 'e' ∧ c ≠ 'E'

/-- What is at the head of a text is at the head of its first part, or of what follows this when it
is empty. -/
theorem forall_head?_append {P : Char → Prop} (hfront : ∀ c ∈ front.head?, P c)
    (hr : ∀ c ∈ r.head?, P c) :
    ∀ c ∈ (front ++ r).head?, P c := by
  cases front with
  | nil => exact hr
  | cons x rest => exact hfront

/-- Whether a character may be part of a number. -/
def isNumeral (c : Char) : Bool := c.isDigit || c = '.' || c = 'e' || c = 'E' || c = '+' || c = '-'

theorem isNumeral_of_isDigit (h : c.isDigit = true) : isNumeral c = true := by
  unfold isNumeral
  rw [h]
  rfl

/-- No blank or quote is part of a number. -/
theorem not_blank_of_isNumeral (h : isNumeral c = true) : isBlank c = false ∧ c ≠ '"' := by
  constructor
  · rw [← Bool.not_eq_true]
    intro hblank
    simp only [isBlank, Bool.or_eq_true, decide_eq_true_eq] at hblank
    rcases hblank with ((rfl | rfl) | rfl) | rfl
    all_goals exact absurd h (by decide)
  · rintro rfl
    exact absurd h (by decide)

theorem fraction?_point (rest : List Char) : fraction? ('.' :: rest) =
    if (rest.takeWhile Char.isDigit).isEmpty then none
    else some (some (rest.takeWhile Char.isDigit), rest.dropWhile Char.isDigit) := rfl

theorem fraction?_of_ne (h : cs.head? ≠ some '.') : fraction? cs = some (none, cs) := by
  unfold fraction?
  split
  · exact absurd rfl h
  · rfl

/-- A fraction is read as far as its digits go. -/
theorem fraction?_frame {f : Option (List Char)} (h : fraction? cs = some (f, r)) :
    ∃ body, cs = body ++ r ∧ (∀ c ∈ body, isNumeral c = true) ∧ (∀ c ∈ body.head?, c = '.') ∧
      ∀ r', NoDigit r' → r'.head? ≠ some '.' → fraction? (body ++ r') = some (f, r') := by
  by_cases hpoint : cs.head? = some '.'
  · obtain ⟨rest, rfl⟩ := List.head?_eq_some_iff.1 hpoint
    rw [fraction?_point] at h
    split at h
    · cases h
    · rename_i hsome
      cases h
      refine ⟨'.' :: rest.takeWhile Char.isDigit, ?_, ?_, fun c hc => (Option.some.inj hc).symm,
        fun r' hr' _ => ?_⟩
      · rw [List.cons_append, List.takeWhile_append_dropWhile]
      · intro c hc
        rcases List.mem_cons.1 hc with rfl | hc
        · rfl
        · exact isNumeral_of_isDigit (List.mem_takeWhile_imp hc)
      · obtain ⟨htake, hdrop⟩ := takeWhile_frame rest hr'
        rw [List.cons_append, fraction?_point, htake, hdrop, if_neg hsome]
  · rw [fraction?_of_ne hpoint] at h
    cases h
    exact ⟨[], rfl, fun c hc => absurd hc List.not_mem_nil, fun c hc => (by cases hc),
      fun r' _ hr' =>
      fraction?_of_ne hr'⟩

/-- The sign of a power of ten, and what follows it. -/
def signed : List Char → Bool × List Char
  | '+' :: rest => (false, rest)
  | '-' :: rest => (true, rest)
  | rest => (false, rest)

theorem power?_cons (c : Char) (rest : List Char) : power? (c :: rest) =
    if c = 'e' || c = 'E' then
      if ((signed rest).2.takeWhile Char.isDigit).isEmpty then none
      else some (some ((signed rest).1, (signed rest).2.takeWhile Char.isDigit),
        (signed rest).2.dropWhile Char.isDigit)
    else some (none, c :: rest) := rfl

/-- A sign is read whatever digit follows it. -/
theorem signed_frame (rest : List Char) : ∃ sign, rest = sign ++ (signed rest).2 ∧
    (∀ c ∈ sign, isNumeral c = true) ∧
      ∀ c tail, c.isDigit = true → signed (sign ++ c :: tail) = ((signed rest).1, c :: tail) := by
  have hdigit : ∀ (c : Char) tail, c.isDigit = true → signed (c :: tail) = (false, c :: tail) := by
    intro c tail hc
    unfold signed
    split
    · rename_i heq
      obtain ⟨rfl, -⟩ := List.cons.inj heq
      exact absurd hc (by decide)
    · rename_i heq
      obtain ⟨rfl, -⟩ := List.cons.inj heq
      exact absurd hc (by decide)
    · rfl
  have hcases : (∃ tail, rest = '+' :: tail) ∨ (∃ tail, rest = '-' :: tail) ∨
      signed rest = (false, rest) := by
    unfold signed
    split
    · exact Or.inl ⟨_, rfl⟩
    · exact Or.inr (Or.inl ⟨_, rfl⟩)
    · exact Or.inr (Or.inr rfl)
  rcases hcases with ⟨tail, rfl⟩ | ⟨tail, rfl⟩ | hnone
  · exact ⟨['+'], rfl, fun c hc => by rw [List.mem_singleton.1 hc]; rfl, fun _ _ _ => rfl⟩
  · exact ⟨['-'], rfl, fun c hc => by rw [List.mem_singleton.1 hc]; rfl, fun _ _ _ => rfl⟩
  · rw [hnone]
    exact ⟨[], rfl, fun c hc => absurd hc List.not_mem_nil, hdigit⟩

/-- A power of ten is read as far as its digits go. -/
theorem power?_frame {p : Option (Bool × List Char)} (h : power? cs = some (p, r)) :
    ∃ body, cs = body ++ r ∧ (∀ c ∈ body, isNumeral c = true) ∧
      (∀ c ∈ body.head?, c = 'e' ∨ c = 'E') ∧ ∀ r', Closes r' →
      power? (body ++ r') = some (p, r') := by
  have hnone : ∀ r', Closes r' → power? r' = some (none, r') := by
    intro r' hr'
    cases r' with
    | nil => rfl
    | cons c rest =>
      obtain ⟨-, -, hsmall, hlarge⟩ := hr' c rfl
      rw [power?_cons, if_neg (by simp [hsmall, hlarge])]
  cases cs with
  | nil =>
    cases h
    exact ⟨[], rfl, fun c hc => absurd hc List.not_mem_nil, fun c hc => (by cases hc), hnone⟩
  | cons c rest =>
    rw [power?_cons] at h
    split at h
    · rename_i hmark
      split at h
      · cases h
      · rename_i hdigits
        cases h
        obtain ⟨sign, hrest, hsign, hframe⟩ := signed_frame rest
        have hc : c = 'e' ∨ c = 'E' := by simpa using hmark
        refine ⟨c :: (sign ++ (signed rest).2.takeWhile Char.isDigit), ?_, ?_, ?_, fun r' hr' => ?_⟩
        · rw [List.cons_append, List.append_assoc, List.takeWhile_append_dropWhile, ← hrest]
        · intro x hx
          rcases List.mem_cons.1 hx with rfl | hx
          · rcases hc with rfl | rfl <;> rfl
          · rcases List.mem_append.1 hx with hx | hx
            · exact hsign x hx
            · exact isNumeral_of_isDigit (List.mem_takeWhile_imp hx)
        · rintro x ⟨⟩
          exact hc
        · obtain ⟨htake, hdrop⟩ := takeWhile_frame (signed rest).2 fun x hx => (hr' x hx).1
          -- There is a digit behind the sign.
          obtain ⟨d, ds, hds⟩ := List.exists_cons_of_ne_nil (mt List.isEmpty_iff.2 hdigits)
          have hd : d.isDigit = true := List.mem_takeWhile_imp (hds ▸ List.mem_cons_self)
          have hsigned := hframe d (ds ++ r') hd
          rw [← List.cons_append, ← hds] at hsigned
          rw [List.cons_append, List.append_assoc, power?_cons, hsigned, if_pos hmark]
          dsimp only
          rw [htake, hdrop, if_neg hdigits]
    · cases h
      exact ⟨[], rfl, fun c hc => absurd hc List.not_mem_nil, fun c hc => (by cases hc), hnone⟩

/-- The digits before the point: at least one, and a zero alone. -/
def whole? : List Char → Option (List Char)
  | [] => none
  | '0' :: _ :: _ => none
  | ds => some ds

theorem number?_eq (negative : Bool) (cs : List Char) : number? negative cs =
    (whole? (cs.takeWhile Char.isDigit)).bind fun ds =>
    (fraction? (cs.dropWhile Char.isDigit)).bind fun f =>
      (power? f.2).map fun p => (Parts.value? ⟨negative, ds, f.1, p.1⟩, p.2) := by
  unfold number?
  generalize cs.takeWhile Char.isDigit = ds
  dsimp only
  split
  · rfl
  · rfl
  · rename_i hnil hzero
    have hwhole : whole? ds = some ds := by
      unfold whole?
      split
      · exact absurd rfl hnil
      · exact absurd rfl (hzero _ _)
      · rfl
    rw [hwhole]
    cases fraction? (cs.dropWhile Char.isDigit) with
    | none => rfl
    | some f =>
      dsimp only [Option.bind_eq_bind, Option.bind_some]
      cases power? f.2 <;> rfl

/-- A number is read whatever follows it, as long as this cannot belong to a number. -/
theorem number?_frame {negative : Bool} {n : Option Number}
    (h : number? negative cs = some (n, r)) :
    ∃ d body, cs = d :: body ++ r ∧ d.isDigit = true ∧ (∀ c ∈ d :: body, isNumeral c = true) ∧
      ∀ r', Closes r' → number? negative (d :: body ++ r') = some (n, r') := by
  rw [number?_eq] at h
  obtain ⟨ds, hwhole, h⟩ := Option.bind_eq_some_iff.1 h
  obtain ⟨⟨f, rest⟩, hfraction, h⟩ := Option.bind_eq_some_iff.1 h
  obtain ⟨⟨p, r₁⟩, hpower, heq⟩ := Option.map_eq_some_iff.1 h
  cases heq
  obtain ⟨body, hbody, hbodyNumeral, hpoint, hbodyFrame⟩ := fraction?_frame hfraction
  obtain ⟨tail, rfl, htailNumeral, hmark, htailFrame⟩ := power?_frame hpower
  -- The digits before the point are those at the head.
  have hds : ds = cs.takeWhile Char.isDigit := by
    unfold whole? at hwhole
    split at hwhole
    · cases hwhole
    · cases hwhole
    · exact (Option.some.inj hwhole).symm
  have hne : cs.takeWhile Char.isDigit ≠ [] := by
    intro hnil
    rw [hnil] at hwhole
    cases hwhole
  obtain ⟨d, front, hfront⟩ := List.exists_cons_of_ne_nil hne
  have hdigit : ∀ c ∈ d :: front, c.isDigit = true := fun c hc =>
    List.mem_takeWhile_imp (hfront ▸ hc)
  refine ⟨d, front ++ body ++ tail, ?_, hdigit d List.mem_cons_self, ?_, fun r' hr' => ?_⟩
  · rw [← List.cons_append, ← List.cons_append, ← hfront, List.append_assoc,
      List.append_assoc, ← hbody, List.takeWhile_append_dropWhile]
  · intro c hc
    rw [← List.cons_append, ← List.cons_append, List.mem_append, List.mem_append] at hc
    rcases hc with (hc | hc) | hc
    · exact isNumeral_of_isDigit (hdigit c hc)
    · exact hbodyNumeral c hc
    · exact htailNumeral c hc
  · -- What follows the digits is a point, a mark of the power, or what follows the number.
    have htailHead : ∀ c ∈ (tail ++ r').head?, c.isDigit = false ∧ c ≠ '.' := by
      refine forall_head?_append (fun c hc => ?_) fun c hc => ⟨(hr' c hc).1, (hr' c hc).2.1⟩
      rcases hmark c hc with rfl | rfl <;> decide
    have htailDigit : NoDigit (tail ++ r') := fun c hc => (htailHead c hc).1
    have hbodyDigit : NoDigit (body ++ (tail ++ r')) := by
      refine forall_head?_append (fun c hc => ?_) htailDigit
      rw [hpoint c hc]
      rfl
    obtain ⟨htake, hdrop⟩ := takeWhile_frame cs hbodyDigit
    rw [← List.cons_append, ← List.cons_append, ← hfront, List.append_assoc, List.append_assoc,
      number?_eq, htake, hdrop, hwhole, hbodyFrame _ htailDigit fun hc => (htailHead '.' hc).2 rfl]
    dsimp only [Option.bind_some]
    rw [htailFrame r' hr']
    rfl

/-! ## Lexemes -/

/-- The token of a punctuation mark. -/
def mark? : Char → Option Token
  | '\x7b' => some .openObject
  | '\x7d' => some .closeObject
  | '[' => some .openList
  | ']' => some .closeList
  | ',' => some .comma
  | ':' => some .colon
  | _ => none

/-- Whether a token is a number. -/
def isNumber : Token → Bool
  | .num _ => true
  | _ => false

/-- The characters that are cut out of a text for a token. -/
inductive Lexeme : List Char → Token → Prop
  | mark {c : Char} {t : Token} (h : mark? c = some t) : Lexeme [c] t
  | nullWord : Lexeme ['n', 'u', 'l', 'l'] .null
  | trueWord : Lexeme ['t', 'r', 'u', 'e'] (.bool true)
  | falseWord : Lexeme ['f', 'a', 'l', 's', 'e'] (.bool false)
  | str {body : List Char} {ps : List Piece} (h : SpellsText body ps) :
    Lexeme ('"' :: body) (.str ((characters? ps).map String.ofList))
  | positive {d : Char} {body : List Char} {n : Option Number} (hdigit : d.isDigit = true)
    (hnumeral : ∀ c ∈ d :: body, isNumeral c = true)
    (hread : ∀ r, Closes r → number? false (d :: body ++ r) = some (n, r)) :
    Lexeme (d :: body) (.num n)
  | negative {d : Char} {body : List Char} {n : Option Number} (hdigit : d.isDigit = true)
    (hnumeral : ∀ c ∈ d :: body, isNumeral c = true)
    (hread : ∀ r, Closes r → number? true (d :: body ++ r) = some (n, r)) :
    Lexeme ('-' :: d :: body) (.num n)

variable {t : Token} {ts : List Token} {rest : List Char}

theorem scanFrom_blank (h : isBlank c = true) :
    scanFrom (fuel + 1) (c :: rest) = scanFrom fuel rest := by
  rw [scanFrom, if_pos h]

theorem scanFrom_mark (h : mark? c = some t) :
    scanFrom (fuel + 1) (c :: rest) = (scanFrom fuel rest).map (t :: ·) := by
  unfold mark? at h
  split at h
  all_goals cases h
  all_goals rfl

theorem scanFrom_quote :
    scanFrom (fuel + 1) ('"' :: rest) = (quoted? (rest.length + 1) rest).bind fun w =>
    (scanFrom fuel w.2).map (.str ((characters? w.1).map String.ofList) :: ·) := rfl

theorem scanFrom_minus : scanFrom (fuel + 1) ('-' :: rest) = (number? true rest).bind fun w =>
    (scanFrom fuel w.2).map (.num w.1 :: ·) := rfl

theorem scanFrom_digit (h : c.isDigit = true) : scanFrom (fuel + 1) (c :: rest) =
    (number? false (c :: rest)).bind fun w => (scanFrom fuel w.2).map (.num w.1 :: ·) := by
  have hblank := (not_blank_of_isNumeral (isNumeral_of_isDigit h)).1
  rw [scanFrom, if_neg (by rw [hblank]; exact Bool.false_ne_true)]
  dsimp only
  split
  case h_12 => cases number? false (c :: rest) <;> rfl
  all_goals exact absurd h (by decide)

/-- A lexeme is cut out whatever follows it, unless it is a number that would go on. -/
theorem Lexeme.scan (h : Lexeme front t) (hr : isNumber t = true → Closes r) (fuel : Nat) :
    scanFrom (fuel + 1) (front ++ r) = (scanFrom fuel r).map (t :: ·) := by
  cases h with
  | mark h => exact scanFrom_mark h
  | nullWord | trueWord | falseWord => rfl
  | str h =>
    rw [List.cons_append, scanFrom_quote, h.read r (by rw [List.length_append]; omega)]
    rfl
  | positive hdigit _ hread =>
    rw [List.cons_append, scanFrom_digit hdigit, ← List.cons_append, hread r (hr rfl)]
    rfl
  | negative _ _ hread =>
    rw [List.cons_append, scanFrom_minus, hread r (hr rfl)]
    rfl

/-- The tokens of a text begin with a blank that is skipped, or with a lexeme. -/
theorem scanFrom_cases (h : scanFrom (fuel + 1) (c :: rest) = some ts) :
    (isBlank c = true ∧ scanFrom fuel rest = some ts) ∨
      ∃ front r t ts', c :: rest = front ++ r ∧ Lexeme front t ∧ scanFrom fuel r = some ts' ∧
        ts = t :: ts' := by
  by_cases hblank : isBlank c = true
  · rw [scanFrom_blank hblank] at h
    exact Or.inl ⟨hblank, h⟩
  right
  cases hmark : mark? c with
  | some t =>
    rw [scanFrom_mark hmark] at h
    obtain ⟨ts', hrest, rfl⟩ := Option.map_eq_some_iff.1 h
    exact ⟨[c], rest, t, ts', rfl, .mark hmark, hrest, rfl⟩
  | none =>
    rw [scanFrom, if_neg hblank] at h
    dsimp only at h
    split at h
    case h_7 r =>
      obtain ⟨ts', hrest, rfl⟩ := Option.map_eq_some_iff.1 h
      exact ⟨_, r, _, ts', rfl, .nullWord, hrest, rfl⟩
    case h_8 r =>
      obtain ⟨ts', hrest, rfl⟩ := Option.map_eq_some_iff.1 h
      exact ⟨_, r, _, ts', rfl, .trueWord, hrest, rfl⟩
    case h_9 r =>
      obtain ⟨ts', hrest, rfl⟩ := Option.map_eq_some_iff.1 h
      exact ⟨_, r, _, ts', rfl, .falseWord, hrest, rfl⟩
    case h_10 r =>
      obtain ⟨⟨ps, r'⟩, hquoted, h⟩ := Option.bind_eq_some_iff.1 h
      obtain ⟨ts', hrest, rfl⟩ := Option.map_eq_some_iff.1 h
      obtain ⟨body, rfl, hbody⟩ := spellsText_of_quoted? hquoted
      exact ⟨'"' :: body, r', _, ts', rfl, .str hbody, hrest, rfl⟩
    case h_11 r =>
      obtain ⟨⟨n, r'⟩, hnumber, h⟩ := Option.bind_eq_some_iff.1 h
      obtain ⟨ts', hrest, rfl⟩ := Option.map_eq_some_iff.1 h
      obtain ⟨d, body, rfl, hdigit, hnumeral, hread⟩ := number?_frame hnumber
      exact ⟨'-' :: d :: body, r', _, ts', rfl, .negative hdigit hnumeral hread, hrest, rfl⟩
    case h_12 =>
      obtain ⟨⟨n, r'⟩, hnumber, h⟩ := Option.bind_eq_some_iff.1 h
      obtain ⟨ts', hrest, rfl⟩ := Option.map_eq_some_iff.1 h
      obtain ⟨d, body, hsplit, hdigit, hnumeral, hread⟩ := number?_frame hnumber
      exact ⟨d :: body, r', _, ts', hsplit, .positive hdigit hnumeral hread, hrest, rfl⟩
    all_goals cases hmark

theorem Lexeme.ne_nil (h : Lexeme front t) : front ≠ [] := by
  cases h <;> exact List.cons_ne_nil _ _

/-- A lexeme has no blanks to lose. -/
theorem Lexeme.outside_append (h : Lexeme front t) (r : List Char) :
    outside (front ++ r) = front ++ outside r := by
  cases h with
  | @mark c t h =>
    have hc : isBlank c = false ∧ c ≠ '"' := by
      unfold mark? at h
      split at h
      all_goals first | decide | cases h
    exact outside_of_other hc.1 hc.2 r
  | nullWord | trueWord | falseWord => rfl
  | str h =>
    show '"' :: inside (_ ++ r) = _
    rw [h.inside_append]
    rfl
  | positive _ hnumeral _ =>
    exact Token.outside_append (fun c hc => not_blank_of_isNumeral (hnumeral c hc)) r
  | @negative d body n _ hnumeral _ =>
    have hsign : isNumeral '-' = true := by decide
    refine Token.outside_append (fun c hc => not_blank_of_isNumeral ?_) r
    rcases List.mem_cons.1 hc with rfl | hc
    · exact hsign
    · exact hnumeral c hc

/-- What is no number ends the number before it. -/
theorem Lexeme.closes (h : Lexeme front t) (ht : isNumber t = false) (r : List Char) :
    Closes (front ++ r) := by
  cases h with
  | @mark c t h =>
    unfold mark? at h
    split at h
    all_goals first | cases h; rintro x ⟨⟩; decide | cases h
  | nullWord | trueWord | falseWord | str h =>
    rintro x ⟨⟩
    decide
  | positive _ _ _ => cases ht
  | negative _ _ _ => cases ht

/-! ## Texts -/

/-- Whether no number of a list of tokens is followed by another one. -/
def Spaced : List Token → Prop
  | [] => True
  | [_] => True
  | t :: t' :: rest => (isNumber t = true → isNumber t' = false) ∧ Spaced (t' :: rest)

/-- Whether no number is at the head of a list of tokens. -/
def NoNumber (ts : List Token) : Prop := ∀ t ∈ ts.head?, isNumber t = false

theorem spaced_cons : Spaced (t :: ts) ↔ (isNumber t = true → NoNumber ts) ∧ Spaced ts := by
  cases ts with
  | nil => exact ⟨fun _ => ⟨fun _ t ht => (by cases ht), trivial⟩, fun _ => trivial⟩
  | cons t' rest =>
    refine and_congr_left' ⟨fun h ht x hx => ?_, fun h ht => h ht t' rfl⟩
    cases hx
    exact h ht

/-- The tokens of a text stay when its blanks are left out, as long as no number is followed by
another one. -/
theorem scanFrom_outside (h : scanFrom fuel cs = some ts) (hspaced : Spaced ts) {fuel' : Nat}
    (hfuel : (outside cs).length ≤ fuel') :
    scanFrom fuel' (outside cs) = some ts ∧ (NoNumber ts → Closes (outside cs)) := by
  induction fuel generalizing cs ts fuel' with
  | zero =>
    cases cs with
    | nil =>
      cases h
      exact ⟨by cases fuel' <;> rfl, fun _ c hc => (by cases hc)⟩
    | cons c rest => cases h
  | succ fuel ih =>
    cases cs with
    | nil =>
      cases h
      exact ⟨by cases fuel' <;> rfl, fun _ c hc => (by cases hc)⟩
    | cons c rest =>
      rcases scanFrom_cases h with ⟨hblank, hrest⟩ | ⟨front, r, t, ts', hsplit, hlexeme, hrest, rfl⟩
      · rw [outside_of_blank hblank] at hfuel ⊢
        exact ih hrest hspaced hfuel
      · rw [hsplit, hlexeme.outside_append] at hfuel ⊢
        obtain ⟨hnumber, hspaced'⟩ := spaced_cons.1 hspaced
        have hpos : 0 < front.length := List.length_pos_iff.2 hlexeme.ne_nil
        rw [List.length_append] at hfuel
        obtain ⟨k, rfl⟩ : ∃ k, fuel' = k + 1 := ⟨fuel' - 1, by omega⟩
        obtain ⟨hscan, hcloses⟩ := ih hrest hspaced' (by omega : (outside r).length ≤ k)
        refine ⟨?_, fun hfirst => hlexeme.closes (hfirst t rfl) _⟩
        rw [hlexeme.scan (fun ht => hcloses (hnumber ht)), hscan]
        rfl

/-- **Tokens of a text without blanks.** -/
theorem scan_squeeze {text : String} (h : scan text = some ts) (hspaced : Spaced ts) :
    scan (squeeze text) = some ts := by
  unfold scan squeeze
  rw [String.toList_ofList]
  exact (scanFrom_outside h hspaced (Nat.le_refl _)).1

end Token

/-! ## Documents -/

namespace Written

open Token (Spaced NoNumber spaced_cons isNumber)

/-- What is no number can stand before anything. -/
theorem spaced_cons_of_not {t : Token} {ts : List Token} (ht : isNumber t = false) (h : Spaced ts) :
    Spaced (t :: ts) := by
  refine spaced_cons.2 ⟨fun hnumber => ?_, h⟩
  rw [ht] at hnumber
  cases hnumber

theorem noNumber_cons {t : Token} (ht : isNumber t = false) (ts : List Token) :
    NoNumber (t :: ts) := by
  rintro x ⟨⟩
  exact ht

mutual

/-- No number of a value is followed by another one. -/
theorem spaced_of_valueAt : (fuel : Nat) → {depth : Nat} → {ts rest : List Token} → {w : Written} →
    valueAt fuel depth ts = some (w, rest) → Spaced rest → NoNumber rest → Spaced ts
  | 0, _, _, _, _, h, _, _ => by cases h
  | fuel + 1, depth, ts, rest, w, h, hrest, hnone => by
    rw [valueAt.eq_def] at h
    split at h
    case h_1 heq => cases heq
    case h_4 =>
      cases h
      exact spaced_cons.2 ⟨fun _ => hnone, hrest⟩
    case h_6 heq =>
      cases heq
      refine spaced_cons_of_not rfl ?_
      split at h
      · cases h
        exact spaced_cons_of_not rfl hrest
      · obtain ⟨⟨l, rest'⟩, hitems, heq⟩ := Option.map_eq_some_iff.1 h
        cases heq
        exact spaced_of_itemsAt fuel hitems hrest
    case h_7 heq =>
      cases heq
      refine spaced_cons_of_not rfl ?_
      split at h
      · cases h
        exact spaced_cons_of_not rfl hrest
      · obtain ⟨⟨l, rest'⟩, hmembers, heq⟩ := Option.map_eq_some_iff.1 h
        cases heq
        exact spaced_of_membersAt fuel hmembers hrest
    all_goals
      cases h
    all_goals exact spaced_cons_of_not rfl hrest

/-- No number of the items of a list is followed by another one. -/
theorem spaced_of_itemsAt : (fuel : Nat) → {depth : Nat} → {ts rest : List Token} →
    {l : List Written} → itemsAt fuel depth ts = some (l, rest) → Spaced rest → Spaced ts
  | 0, _, _, _, _, h, _ => by cases h
  | fuel + 1, depth, ts, rest, l, h, hrest => by
    rw [itemsAt] at h
    obtain ⟨⟨x, rest₁⟩, hvalue, h⟩ := Option.bind_eq_some_iff.1 h
    dsimp only at h
    split at h
    · obtain ⟨⟨xs, rest₂⟩, hitems, heq⟩ := Option.bind_eq_some_iff.1 h
      cases heq
      exact spaced_of_valueAt fuel hvalue
        (spaced_cons_of_not rfl (spaced_of_itemsAt fuel hitems hrest)) (noNumber_cons rfl _)
    · cases h
      exact spaced_of_valueAt fuel hvalue (spaced_cons_of_not rfl hrest) (noNumber_cons rfl _)
    · cases h

/-- No number of the members of an object is followed by another one. -/
theorem spaced_of_membersAt : (fuel : Nat) → {depth : Nat} → {ts rest : List Token} →
    {l : List (Option String × Written)} → membersAt fuel depth ts = some (l, rest) →
    Spaced rest → Spaced ts
  | 0, _, _, _, _, h, _ => by cases h
  | fuel + 1, depth, ts, rest, l, h, hrest => by
    rw [membersAt.eq_def] at h
    split at h
    · rename_i heq
      cases heq
    · rename_i heq
      cases heq
      obtain ⟨⟨x, rest₁⟩, hvalue, h⟩ := Option.bind_eq_some_iff.1 h
      refine spaced_cons_of_not rfl (spaced_cons_of_not rfl ?_)
      dsimp only at h
      split at h
      · obtain ⟨⟨xs, rest₂⟩, hmembers, heq⟩ := Option.bind_eq_some_iff.1 h
        cases heq
        exact spaced_of_valueAt fuel hvalue
          (spaced_cons_of_not rfl (spaced_of_membersAt fuel hmembers hrest)) (noNumber_cons rfl _)
      · cases h
        exact spaced_of_valueAt fuel hvalue (spaced_cons_of_not rfl hrest) (noNumber_cons rfl _)
      · cases h
    · cases h

end

/-- No number of a document is followed by another one. -/
theorem spaced_of_ofTokens? {ts : List Token} {w : Written}
    (h : ofTokens? ts = some w) : Spaced ts := by
  unfold ofTokens? at h
  split at h
  · rename_i x hvalue
    exact spaced_of_valueAt _ hvalue trivial fun t ht => (by cases ht)
  · cases h

/-- **Blanks do not count.** Texts that differ in nothing but blanks outside of quoted texts have
one form, when they have one at all. -/
theorem parse?_of_squeeze {text text' : String} {w w' : Written}
    (hsame : Token.squeeze text = Token.squeeze text')
    (h : parse? text = some w) (h' : parse? text' = some w') : w = w' := by
  obtain ⟨ts, hscan, hdocument⟩ := Option.bind_eq_some_iff.1 h
  obtain ⟨ts', hscan', hdocument'⟩ := Option.bind_eq_some_iff.1 h'
  have hsqueezed := Token.scan_squeeze hscan (spaced_of_ofTokens? hdocument)
  have hsqueezed' := Token.scan_squeeze hscan' (spaced_of_ofTokens? hdocument')
  -- Without blanks both have the same tokens.
  rw [hsame, hsqueezed', Option.some.injEq] at hsqueezed
  rw [hsqueezed, hdocument] at hdocument'
  exact Option.some.inj hdocument'

end Written

end TenantFleet.Json
