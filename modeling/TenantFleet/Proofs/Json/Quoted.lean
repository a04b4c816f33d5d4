/-
# Texts in quotes

A text in quotes is a row of pieces and a quote at the end. Each piece is spelled by a character of
its own, by a backslash and a letter, or by a backslash and four hexadecimal digits, so where the
text ends does not depend on what follows it.

* `Token.Spells`, `Token.SpellsText` : the spellings of a piece and of a text;
* `Token.SpellsText.read`, `Token.spellsText_of_quoted?` : the texts that are read;
* `Token.spellsText_escaped` : the texts that are written;
* `quote_append_inj` : a written text says which one it is.
-/
import TenantFleet.Json.Printer
import TenantFleet.Json.Token

namespace TenantFleet.Json

namespace Token

variable {c e x : Char} {u fuel : Nat} {p : Piece} {ps : List Piece} {cs front r : List Char}

/-! ## Pieces -/

/-- The character that a letter behind a backslash stands for. -/
def escape? : Char → Option Char
  | '"' => some '"'
  | '\\' => some '\\'
  | '/' => some '/'
  | 'b' => some '\x08'
  | 'f' => some '\x0c'
  | 'n' => some '\n'
  | 'r' => some '\r'
  | 't' => some '\t'
  | _ => none

/-- The ways to spell a piece of a text. -/
inductive Spells : List Char → Piece → Prop
  /-- A character stands for itself, unless it is a quote, a backslash or a control. -/
  | plain {c : Char} (hquote : c ≠ '"') (hslash : c ≠ '\\') (hcontrol : ¬c.toNat < 0x20) :
      Spells [c] (.char c)
  /-- A letter behind a backslash. -/
  | escape {e x : Char} (h : escape? e = some x) : Spells ['\\', e] (.char x)
  /-- Four digits behind a backslash. -/
  | unit {a b c d : Char} {u : Nat} (h : unit? [a, b, c, d] = some (u, [])) :
    Spells ['\\', 'u', a, b, c, d] (.ofUnit u)

/-- Four digits are read whatever follows. -/
theorem unit?_eq_some : unit? cs = some (u, r) ↔
    ∃ a b c d, cs = a :: b :: c :: d :: r ∧ unit? [a, b, c, d] = some (u, []) := by
  constructor
  · intro h
    match cs, h with
    | a :: b :: c :: d :: rest, h =>
      simp only [unit?, Option.bind_eq_bind, Option.bind_eq_some_iff, Option.pure_def,
        Option.some.injEq, Prod.mk.injEq] at h ⊢
      obtain ⟨na, ha, nb, hb, nc, hc, nd, hd, hu, rfl⟩ := h
      exact ⟨a, b, c, d, rfl, na, ha, nb, hb, nc, hc, nd, hd, hu, trivial⟩
  · rintro ⟨a, b, c, d, rfl, h⟩
    simp only [unit?, Option.bind_eq_bind, Option.bind_eq_some_iff, Option.pure_def,
      Option.some.injEq, Prod.mk.injEq] at h ⊢
    obtain ⟨na, ha, nb, hb, nc, hc, nd, hd, hu, -⟩ := h
    exact ⟨na, ha, nb, hb, nc, hc, nd, hd, hu, trivial⟩

/-! ## Reading pieces -/

theorem quoted?_plain (hquote : c ≠ '"') (hslash : c ≠ '\\') : quoted? (fuel + 1) (c :: r) =
    if c.toNat < 0x20 then none else (quoted? fuel r).map fun q => (.char c :: q.1, q.2) := by
  rw [quoted?]
  · simp only [hslash, decide_false, Bool.or_false, decide_eq_true_eq]
    split
    · rfl
    · cases quoted? fuel r <;> rfl
  · exact hquote
  · exact fun _ _ h => absurd h hslash

theorem quoted?_escape (h : escape? e = some x) : quoted? (fuel + 1) ('\\' :: e :: r) =
    (quoted? fuel r).map fun q => (.char x :: q.1, q.2) := by
  unfold escape? at h
  split at h
  all_goals cases h
  all_goals
    simp only [quoted?]
    cases quoted? fuel r <;> rfl

theorem quoted?_unit : quoted? (fuel + 1) ('\\' :: 'u' :: r) =
    (unit? r).bind fun w => (quoted? fuel w.2).map fun q => (.ofUnit w.1 :: q.1, q.2) := by
  simp only [quoted?]
  cases unit? r with
  | none => rfl
  | some w =>
    dsimp only [Option.bind_eq_bind, Option.bind_some]
    cases quoted? fuel w.2 <;> rfl

theorem quoted?_other (hescape : escape? e = none) (hunit : e ≠ 'u') :
    quoted? (fuel + 1) ('\\' :: e :: r) = none := by
  rw [quoted?]
  case x_11 => exact hunit
  all_goals
    rintro rfl
    cases hescape

/-- A piece is read whatever follows. -/
theorem Spells.read (h : Spells front p) (fuel : Nat) (r : List Char) :
    quoted? (fuel + 1) (front ++ r) = (quoted? fuel r).map fun q => (p :: q.1, q.2) := by
  cases h with
  | plain hquote hslash hcontrol =>
    rw [List.singleton_append, quoted?_plain hquote hslash, if_neg hcontrol]
  | escape h => exact quoted?_escape h
  | unit h =>
    simp only [List.cons_append, List.nil_append]
    rw [quoted?_unit, unit?_eq_some.2 ⟨_, _, _, _, rfl, h⟩]
    rfl

theorem Spells.ne_nil (h : Spells front p) : front ≠ [] := by
  cases h <;> exact List.cons_ne_nil _ _

/-- A text ends, or a piece of it is read. -/
theorem quoted?_cases (h : quoted? (fuel + 1) cs = some (ps, r)) :
    (cs = '"' :: r ∧ ps = []) ∨ ∃ front rest p ps', cs = front ++ rest ∧ Spells front p ∧
      quoted? fuel rest = some (ps', r) ∧ ps = p :: ps' := by
  match cs, h with
  | [], h => cases h
  | c :: rest, h =>
    by_cases hquote : c = '"'
    · subst hquote
      cases h
      exact Or.inl ⟨rfl, rfl⟩
    right
    by_cases hslash : c = '\\'
    · subst hslash
      match rest, h with
      | [], h => cases h
      | e :: rest, h =>
        cases hescape : escape? e with
        | some x =>
          rw [quoted?_escape hescape] at h
          obtain ⟨⟨ps', r'⟩, hrest, heq⟩ := Option.map_eq_some_iff.1 h
          cases heq
          exact ⟨['\\', e], rest, .char x, ps', rfl, .escape hescape, hrest, rfl⟩
        | none =>
          by_cases hunit : e = 'u'
          · subst hunit
            rw [quoted?_unit] at h
            obtain ⟨⟨u, rest'⟩, hfour, hpieces⟩ := Option.bind_eq_some_iff.1 h
            obtain ⟨a, b, c, d, rfl, hdigits⟩ := unit?_eq_some.1 hfour
            obtain ⟨⟨ps', r'⟩, hrest, heq⟩ := Option.map_eq_some_iff.1 hpieces
            cases heq
            exact ⟨['\\', 'u', a, b, c, d], rest', .ofUnit u, ps', rfl, .unit hdigits, hrest, rfl⟩
          · rw [quoted?_other hescape hunit] at h
            cases h
    · rw [quoted?_plain hquote hslash] at h
      split at h
      · cases h
      · rename_i hcontrol
        obtain ⟨⟨ps', r'⟩, hrest, heq⟩ := Option.map_eq_some_iff.1 h
        cases heq
        exact ⟨[c], rest, .char c, ps', rfl, .plain hquote hslash hcontrol, hrest, rfl⟩

/-- Characters that spell pieces one after the other, with the closing quote. -/
inductive SpellsText : List Char → List Piece → Prop
  | close : SpellsText ['"'] []
  | piece {front body : List Char} {p : Piece} {ps : List Piece} (hspells : Spells front p)
    (hbody : SpellsText body ps) : SpellsText (front ++ body) (p :: ps)

/-- A text is read whatever follows its closing quote. -/
theorem SpellsText.read {body : List Char} (h : SpellsText body ps) (r : List Char)
    (hfuel : body.length ≤ fuel) :
    quoted? fuel (body ++ r) = some (ps, r) := by
  induction h generalizing fuel with
  | close =>
    obtain ⟨k, rfl⟩ := Nat.exists_eq_add_of_lt hfuel
    rfl
  | @piece front body p ps hspells hbody ih =>
    have hpos : 0 < front.length := List.length_pos_iff.2 hspells.ne_nil
    rw [List.length_append] at hfuel
    obtain ⟨k, rfl⟩ : ∃ k, fuel = k + 1 := ⟨fuel - 1, by omega⟩
    rw [List.append_assoc, hspells.read, ih (by omega)]
    rfl

/-- What is read as a text spells it. -/
theorem spellsText_of_quoted? (h : quoted? fuel cs = some (ps, r)) :
    ∃ body, cs = body ++ r ∧ SpellsText body ps := by
  induction fuel generalizing cs ps with
  | zero => cases h
  | succ fuel ih =>
    rcases quoted?_cases h with ⟨rfl, rfl⟩ | ⟨front, rest, p, ps', rfl, hspells, hrest, rfl⟩
    · exact ⟨['"'], rfl, .close⟩
    · obtain ⟨body, rfl, hbody⟩ := ih hrest
      exact ⟨front ++ body, (List.append_assoc _ _ _).symm, .piece hspells hbody⟩

/-! ## Writing texts -/

/-- The hexadecimal digits of a control character are those of the character. -/
theorem unit?_control (hc : c.toNat < 0x20) :
    unit? ['0', '0', hexChar (c.toNat / 16), hexChar (c.toNat % 16)] = some (c.toNat, []) := by
  have hdigits : ∀ n < 0x20, unit? ['0', '0', hexChar (n / 16), hexChar (n % 16)] =
      some (n, []) := by decide
  exact hdigits c.toNat hc

/-- An escaped character spells the character. -/
theorem spells_escapeChar (c : Char) : Spells (escapeChar c) (.char c) := by
  unfold escapeChar
  split
  case h_8 _ hquote hslash _ _ _ _ _ =>
    split
    · rename_i hcontrol
      have hpiece : Piece.ofUnit c.toNat = .char c := by
        have hsmall : ¬(0xD800 ≤ c.toNat ∧ c.toNat ≤ 0xDFFF) := by omega
        rw [Piece.ofUnit, if_neg hsmall, Char.ofNat_toNat]
      rw [← hpiece]
      exact .unit (unit?_control hcontrol)
    · rename_i hcontrol
      exact .plain hquote hslash hcontrol
  all_goals exact .escape rfl

/-- An escaped text spells the text. -/
theorem spellsText_escaped (s : List Char) :
    SpellsText (s.flatMap escapeChar ++ ['"']) (s.map .char) := by
  induction s with
  | nil => exact .close
  | cons c rest ih =>
    rw [List.flatMap_cons, List.append_assoc]
    exact .piece (spells_escapeChar c) ih

end Token

variable {r r' : List Char}

/-- Texts whose spellings begin alike are the same. -/
theorem Token.SpellsText.append_inj {body body' : List Char} {ps ps' : List Token.Piece}
    (hbody : Token.SpellsText body ps) (hbody' : Token.SpellsText body' ps')
    (h : body ++ r = body' ++ r') :
    ps = ps' ∧ r = r' := by
  -- Both are read with enough fuel, and the same is read.
  have hread := hbody.read r (Nat.le_max_left body.length body'.length)
  have hread' := hbody'.read r' (Nat.le_max_right body.length body'.length)
  rw [h, hread', Option.some.injEq, Prod.mk.injEq] at hread
  exact ⟨hread.1.symm, hread.2.symm⟩

/-- A quoted text ends in one place, and says which text it is. -/
theorem quote_append_inj {s s' : String} (h : quote s ++ r = quote s' ++ r') : s = s' ∧ r = r' := by
  obtain ⟨hpieces, hrest⟩ := (Token.spellsText_escaped s.toList).append_inj
    (Token.spellsText_escaped s'.toList) (List.cons.inj h).2
  have hchars := congrArg Token.characters? hpieces
  rw [Token.characters?_map_char, Token.characters?_map_char, Option.some.injEq] at hchars
  exact ⟨String.toList_inj.1 hchars, hrest⟩

end TenantFleet.Json
