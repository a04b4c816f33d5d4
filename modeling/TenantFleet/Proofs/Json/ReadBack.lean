/-
# Written documents are read back

The text of a document is cut into the tokens that were written, and these are read as the document
again, members in the order they were written. It only has to fit: its integers have 64 bits, and it
is nested no deeper than the reader allows.

* `lexeme_numberText` : integers are cut out as they were written;
* `tokens` and `scan_render` : the tokens of the text of a document;
* `valueAt_tokens` : what these tokens are read as;
* `readBack_render` : the text of a document is read as its form.
-/
import TenantFleet.Proofs.Json.Fits
import TenantFleet.Proofs.Json.Render

namespace TenantFleet.Json

open Token (Lexeme Closes isNumber)

variable {cs r : List Char} {t : Token} {ts : List Token} {depth : Nat}

/-! ## Integers -/

/-- The numeral of a number that is not zero begins with no zero. -/
theorem head?_toDigits {n : Nat} (hpos : 0 < n) : (Nat.toDigits 10 n).head? ≠ some '0' := by
  induction n using Nat.strongRecOn with
  | ind n ih =>
    by_cases hsmall : n < 10
    · rw [Nat.toDigits_of_lt_base hsmall]
      have hdigit : ∀ k < 10, 0 < k → Nat.digitChar k ≠ '0' := by decide
      simpa using hdigit n hsmall hpos
    · have hfront := Nat.toDigits_append_toDigits (b := 10) (n := n / 10) (d := n % 10)
        (by decide) (by omega) (Nat.mod_lt n (by decide))
      obtain ⟨c, ds, hds, -⟩ := toDigits_eq_cons (n / 10)
      have hhead := ih (n / 10) (by omega) (by omega)
      rw [Nat.div_add_mod] at hfront
      rw [hds] at hhead hfront
      rw [← hfront]
      exact hhead

/-- Digits are taken when their value is within 64 bits. -/
theorem significand_eq {acc : Nat} (ds : List Char)
    (hlimit : Nat.ofDigitChars 10 ds acc ≤ Token.maxUnsigned) :
    Token.significand acc 0 ds = (Nat.ofDigitChars 10 ds acc, 0) := by
  induction ds generalizing acc with
  | nil => rfl
  | cons c rest ih =>
    rw [Nat.ofDigitChars_cons, Nat.mul_comm] at hlimit ⊢
    have hle := Nat.le_trans (Unsigned.le_ofDigitChars rest _) hlimit
    rw [Token.significand, if_pos ⟨rfl, hle⟩]
    exact ih hlimit

/-- The numeral of a number within 64 bits is taken as it stands. -/
theorem number?_toDigits {n : Nat} (hlimit : n ≤ Token.maxUnsigned) (negative : Bool) :
    Token.number? negative (Nat.toDigits 10 n) =
      some (Token.Parts.value? ⟨negative, Nat.toDigits 10 n, none, none⟩, []) := by
  have hnil : NoDigit [] := fun c hc => by cases hc
  obtain ⟨htake, hdrop⟩ := takeWhile_digits (isDigit_of_mem_toDigits (n := n)) hnil
  rw [List.append_nil] at htake hdrop
  have hwhole : Token.whole? (Nat.toDigits 10 n) = some (Nat.toDigits 10 n) := by
    unfold Token.whole?
    split
    · rename_i heq
      exact absurd heq Nat.toDigits_ne_nil
    · rename_i c rest heq
      -- A zero at the head is that of the number zero, whose numeral ends there.
      by_cases hpos : 0 < n
      · exact absurd (by rw [heq]; rfl) (head?_toDigits hpos)
      · obtain rfl : n = 0 := by omega
        have hzero : Nat.toDigits 10 0 = ['0'] := by decide
        rw [hzero] at heq
        cases heq
    · rfl
  rw [Token.number?_eq, htake, hdrop, hwhole]
  rfl

/-- The parts of a numeral without a sign stand for its number. -/
theorem value?_toDigits {n : Nat} (hlimit : n ≤ Token.maxUnsigned) :
    Token.Parts.value? ⟨false, Nat.toDigits 10 n, none, none⟩ = some (.int n) := by
  have hvalue : Nat.ofDigitChars 10 (Nat.toDigits 10 n) 0 = n := Nat.ofDigitChars_ten_toDigits
  unfold Token.Parts.value?
  dsimp only
  rw [significand_eq _ (by rw [hvalue]; exact hlimit), hvalue]
  rfl

/-- The parts of a numeral behind a minus sign stand for the number below zero. -/
theorem value?_toDigits_negative {n : Nat} (hpos : 0 < n) (hlimit : n ≤ Nat.pow 2 63) :
    Token.Parts.value? ⟨true, Nat.toDigits 10 n, none, none⟩ = some (.int (-(n : Int))) := by
  have hvalue : Nat.ofDigitChars 10 (Nat.toDigits 10 n) 0 = n := Nat.ofDigitChars_ten_toDigits
  have hunsigned : n ≤ Token.maxUnsigned := Nat.le_trans hlimit (by decide)
  unfold Token.Parts.value?
  dsimp only
  rw [significand_eq _ (by rw [hvalue]; exact hunsigned), hvalue]
  dsimp only
  rw [if_pos rfl, if_neg (by omega), if_pos hlimit]
  rfl

/-- What is read as a number as a whole is cut out for it. -/
theorem lexeme_positive {n : Option Number} (h : Token.number? false cs = some (n, [])) :
    Lexeme cs (.num n) := by
  obtain ⟨d, body, hcs, hdigit, hnumeral, hread⟩ := Token.number?_frame h
  rw [List.append_nil] at hcs
  rw [hcs]
  exact .positive hdigit hnumeral hread

theorem lexeme_negative {n : Option Number} (h : Token.number? true cs = some (n, [])) :
    Lexeme ('-' :: cs) (.num n) := by
  obtain ⟨d, body, hcs, hdigit, hnumeral, hread⟩ := Token.number?_frame h
  rw [List.append_nil] at hcs
  rw [hcs]
  exact .negative hdigit hnumeral hread

/-- An integer of 64 bits is cut out as it was written. -/
theorem lexeme_numberText {n : Int} (h : InRange n) :
    Lexeme (numberText (.int n)) (.num (some (.int n))) := by
  obtain ⟨hlow, hhigh⟩ := h
  cases n with
  | ofNat m =>
    have hlimit : m ≤ Token.maxUnsigned := Nat.le_sub_one_of_lt (Int.ofNat_lt.1 hhigh)
    rw [numberText_ofNat]
    refine lexeme_positive ?_
    rw [number?_toDigits hlimit, value?_toDigits hlimit]
    rfl
  | negSucc m =>
    have hlimit : m + 1 ≤ Nat.pow 2 63 := by omega
    rw [numberText_negSucc]
    refine lexeme_negative ?_
    rw [number?_toDigits (Nat.le_trans hlimit (by decide)),
      value?_toDigits_negative (by omega) hlimit]
    rfl

/-! ## Tokens -/

mutual

/-- The tokens of the text of a document. -/
def tokens : Json → List Token
  | .null => [.null]
  | .bool b => [.bool b]
  | .num n => [.num (some n)]
  | .str s => [.str (some s)]
  | .arr [] => [.openList, .closeList]
  | .arr (x :: rest) => .openList :: (tokens x ++ itemTokens rest)
  | .obj [] => [.openObject, .closeObject]
  | .obj ((k, x) :: rest) => .openObject :: .str (some k) :: .colon ::
    (tokens x ++ memberTokens rest)

/-- The tokens of the items after the first one and of the end of the list. -/
def itemTokens : List Json → List Token
  | [] => [.closeList]
  | x :: rest => .comma :: (tokens x ++ itemTokens rest)

/-- The tokens of the members after the first one and of the end of the object. -/
def memberTokens : List (String × Json) → List Token
  | [] => [.closeObject]
  | (k, x) :: rest => .comma :: .str (some k) :: .colon :: (tokens x ++ memberTokens rest)

end

/-- Whether a text is cut into some tokens. -/
def Scans (cs : List Char) (ts : List Token) : Prop := ∀ fuel, cs.length ≤ fuel →
    Token.scanFrom fuel cs = some ts

theorem scans_nil : Scans [] [] := by
  intro fuel _
  cases fuel <;> rfl

/-- A lexeme in front of a text is a token more, unless it is a number that would go on. -/
theorem Scans.lexeme {front : List Char} (hrest : Scans r ts) (h : Lexeme front t)
    (hr : isNumber t = true → Closes r) : Scans (front ++ r) (t :: ts) := by
  intro fuel hfuel
  have hpos : 0 < front.length := List.length_pos_iff.2 h.ne_nil
  rw [List.length_append] at hfuel
  obtain ⟨k, rfl⟩ : ∃ k, fuel = k + 1 := ⟨fuel - 1, by omega⟩
  rw [h.scan hr, hrest k (by omega)]
  rfl

/-- A mark in front of a text is a token more. -/
theorem Scans.mark {c : Char} (hrest : Scans r ts) (h : Token.mark? c = some t) :
    Scans (c :: r) (t :: ts) := by
  refine hrest.lexeme (Lexeme.mark h) fun hnumber => ?_
  unfold Token.mark? at h
  split at h
  all_goals first | cases h; cases hnumber | cases h

/-- A quoted text in front of a text is a token more. -/
theorem Scans.quote (hrest : Scans r ts) (s : String) :
    Scans (quote s ++ r) (.str (some s) :: ts) := by
  have hlexeme := Lexeme.str (Token.spellsText_escaped s.toList)
  rw [Token.characters?_map_char, Option.map_some, String.ofList_toList] at hlexeme
  exact hrest.lexeme hlexeme nofun

/-- What follows an item or a member ends a number. -/
theorem closes_renderItems (items : List Json) (r : List Char) :
    Closes (renderItems items ++ r) := by
  intro c hc
  cases items <;> cases hc <;> decide

theorem closes_renderMembers (ms : List (String × Json)) (r : List Char) :
    Closes (renderMembers ms ++ r) := by
  intro c hc
  cases ms <;> cases hc <;> decide

mutual

/-- The text of a document is cut into its tokens. -/
theorem scans_renderChars : (x : Json) → {depth : Nat} → x.written.Fits depth → {r : List Char} →
    {ts : List Token} → Closes r → Scans r ts → Scans (renderChars x ++ r) (tokens x ++ ts)
  | .null, _, _, _, _, _, h => h.lexeme .nullWord nofun
  | .bool true, _, _, _, _, _, h => h.lexeme .trueWord nofun
  | .bool false, _, _, _, _, _, h => h.lexeme .falseWord nofun
  | .num (.int n), _, hx, _, _, hr, h => by
    cases hx with
    | int hn => exact h.lexeme (lexeme_numberText hn) fun _ => hr
  | .num (.real v), _, hx, _, _, _, _ => by cases hx
  | .str s, _, _, _, _, _, h => h.quote s
  | .arr items, 0, hx, _, _, _, _ => by cases hx
  | .arr [], _ + 1, _, _, _, _, h => (h.mark rfl).mark rfl
  | .arr (x :: rest), depth + 1, hx, r, ts, _, h => by
    obtain ⟨hx, hrest⟩ := List.forall_mem_cons.1 (fits_arr_iff.1 hx)
    rw [renderChars, tokens, List.cons_append, List.cons_append, List.append_assoc,
      List.append_assoc]
    exact (scans_renderChars x hx (closes_renderItems rest r)
      (scans_renderItems rest hrest h)).mark rfl
  | .obj ms, 0, hx, _, _, _, _ => by cases hx
  | .obj [], _ + 1, _, _, _, _, h => (h.mark rfl).mark rfl
  | .obj ((k, x) :: rest), depth + 1, hx, r, ts, _, h => by
    obtain ⟨hx, hrest⟩ := List.forall_mem_cons.1 (fits_obj_iff.1 hx)
    have hvalue := scans_renderChars x hx (closes_renderMembers rest r)
      (scans_renderMembers rest hrest h)
    rw [renderChars, tokens]
    simp only [List.cons_append, List.append_assoc]
    exact ((hvalue.mark rfl).quote k).mark rfl

/-- The items of a list are cut into their tokens. -/
theorem scans_renderItems : (l : List Json) → {depth : Nat} → (∀ x ∈ l, x.written.Fits depth) →
    {r : List Char} →
    {ts : List Token} → Scans r ts → Scans (renderItems l ++ r) (itemTokens l ++ ts)
  | [], _, _, _, _, h => h.mark rfl
  | x :: rest, _, hl, r, _, h => by
    obtain ⟨hx, hrest⟩ := List.forall_mem_cons.1 hl
    rw [renderItems, itemTokens, List.cons_append, List.cons_append, List.append_assoc,
      List.append_assoc]
    exact (scans_renderChars x hx (closes_renderItems rest r)
      (scans_renderItems rest hrest h)).mark rfl

/-- The members of an object are cut into their tokens. -/
theorem scans_renderMembers : (l : List (String × Json)) → {depth : Nat} →
    (∀ m ∈ l, m.2.written.Fits depth) →
    {r : List Char} → {ts : List Token} → Scans r ts →
    Scans (renderMembers l ++ r) (memberTokens l ++ ts)
  | [], _, _, _, _, h => h.mark rfl
  | (k, x) :: rest, _, hl, r, _, h => by
    obtain ⟨hx, hrest⟩ := List.forall_mem_cons.1 hl
    have hvalue := scans_renderChars x hx (closes_renderMembers rest r)
      (scans_renderMembers rest hrest h)
    rw [renderMembers, memberTokens]
    simp only [List.cons_append, List.append_assoc]
    exact ((hvalue.mark rfl).quote k).mark rfl

end

/-- The text of a document has its tokens. -/
theorem scan_render {x : Json} (hx : x.written.Fits depth) :
    Token.scan (render x) = some (tokens x) := by
  have hscans := scans_renderChars x hx (fun c hc => by cases hc) scans_nil
  rw [List.append_nil, List.append_nil] at hscans
  unfold Token.scan render
  rw [String.toList_ofList]
  exact hscans _ (Nat.le_refl _)

/-! ## Reading tokens -/

namespace Written

/-- At the head of the tokens of a document is no closing mark. -/
theorem tokens_eq_cons (x : Json) :
    ∃ t ts, tokens x = t :: ts ∧ t ≠ .closeList ∧ t ≠ .closeObject := by
  match x with
  | .null | .bool _ | .num _ | .str _ | .arr [] | .arr (_ :: _) | .obj [] | .obj ((_, _) :: _) =>
    exact ⟨_, _, rfl, nofun, nofun⟩

variable {fuel : Nat} {rest : List Token}

/-- A list that does not end at once has items. -/
theorem valueAt_openList (h : ∀ rest', rest ≠ .closeList :: rest') :
    valueAt (fuel + 1) (depth + 1) (.openList :: rest) =
      (itemsAt fuel depth rest).map fun r => (.arr r.1, r.2) := by
  rw [valueAt]
  · rfl
  · exact h

/-- An object that does not end at once has members. -/
theorem valueAt_openObject (h : ∀ rest', rest ≠ .closeObject :: rest') :
    valueAt (fuel + 1) (depth + 1) (.openObject :: rest) =
      (membersAt fuel depth rest).map fun r => (ofMembers r.1, r.2) := by
  rw [valueAt]
  · rfl
  · exact h

mutual

/-- The tokens of a document are read as its form. -/
theorem valueAt_tokens : (x : Json) → {depth fuel : Nat} → {rest : List Token} →
    x.written.Fits depth →
    2 * (tokens x).length ≤ fuel → valueAt fuel depth (tokens x ++ rest) = some (x.written, rest)
  | x, _, 0, _, _, hfuel => by
    obtain ⟨t, ts, hts, -⟩ := tokens_eq_cons x
    rw [hts, List.length_cons] at hfuel
    omega
  | .null, _, _ + 1, _, _, _ | .bool _, _, _ + 1, _, _, _ | .num _, _, _ + 1, _, _, _
  | .str _, _, _ + 1, _, _, _ | .arr [], _ + 1, _ + 1, _, _, _ | .obj [], _ + 1, _ + 1,
    _, _, _ => rfl
  | .arr items, 0, _, _, hx, _ => by cases hx
  | .arr (x :: l), depth + 1, fuel + 1, rest, hx, hfuel => by
    obtain ⟨hx, hl⟩ := List.forall_mem_cons.1 (fits_arr_iff.1 hx)
    obtain ⟨t, ts, hts, hlist, -⟩ := tokens_eq_cons x
    rw [tokens, List.length_cons, List.length_append] at hfuel
    obtain ⟨k, rfl⟩ : ∃ k, fuel = k + 1 := ⟨fuel - 1, by omega⟩
    have hfirst : valueAt k depth (tokens x ++ (itemTokens l ++ rest)) =
        some (x.written, itemTokens l ++ rest) :=
      valueAt_tokens x hx (by omega)
    have hitems := itemsAt_tokens l hl hfirst (by omega)
    rw [tokens, List.cons_append, List.append_assoc, valueAt_openList, hitems]
    · rfl
    · intro rest' heq
      rw [hts] at heq
      exact hlist (List.cons.inj heq).1
  | .obj ms, 0, _, _, hx, _ => by cases hx
  | .obj ((k, x) :: l), depth + 1, fuel + 1, rest, hx, hfuel => by
    obtain ⟨hx, hl⟩ := List.forall_mem_cons.1 (fits_obj_iff.1 hx)
    rw [tokens, List.length_cons, List.length_cons, List.length_cons, List.length_append] at hfuel
    obtain ⟨j, rfl⟩ : ∃ j, fuel = j + 1 := ⟨fuel - 1, by omega⟩
    have hfirst : valueAt j depth (tokens x ++ (memberTokens l ++ rest)) =
        some (x.written, memberTokens l ++ rest) := valueAt_tokens x hx (by omega)
    have hmembers := membersAt_tokens l k hl hfirst (by omega)
    have hform := ofMembers_map (writtenMembers ((k, x) :: l))
    rw [tokens, List.cons_append, List.cons_append, List.cons_append, List.append_assoc,
      valueAt_openObject, hmembers]
    · exact congrArg (fun w => some (w, rest)) hform
    · exact fun rest' heq => nomatch heq

/-- The tokens of items are read as their forms, behind that of the first one. -/
theorem itemsAt_tokens : (l : List Json) → {depth fuel : Nat} → {ts rest : List Token} →
    {w : Written} →
    (∀ x ∈ l, x.written.Fits depth) → valueAt fuel depth ts = some (w, itemTokens l ++ rest) →
    2 * (itemTokens l).length ≤ fuel →
    itemsAt (fuel + 1) depth ts = some (w :: writtenItems l, rest)
  | [], _, _, _, _, _, _, hfirst, _ => by
    rw [itemsAt, hfirst]
    rfl
  | x :: l, depth, fuel, ts, rest, w, hl, hfirst, hfuel => by
    obtain ⟨hx, hl⟩ := List.forall_mem_cons.1 hl
    rw [itemTokens, List.length_cons, List.length_append] at hfuel
    obtain ⟨k, rfl⟩ : ∃ k, fuel = k + 1 := ⟨fuel - 1, by omega⟩
    have hnext : valueAt k depth (tokens x ++ (itemTokens l ++ rest)) =
        some (x.written, itemTokens l ++ rest) :=
      valueAt_tokens x hx (by omega)
    have hitems := itemsAt_tokens l hl hnext (by omega)
    rw [itemTokens, List.cons_append, List.append_assoc] at hfirst
    rw [itemsAt, hfirst]
    dsimp only [Option.bind_eq_bind, Option.bind_some]
    rw [hitems]
    rfl

/-- The tokens of members are read as their forms, behind that of the first one. -/
theorem membersAt_tokens : (l : List (String × Json)) → (k : String) → {depth fuel : Nat} →
    {ts rest : List Token} → {w : Written} → (∀ m ∈ l, m.2.written.Fits depth) →
    valueAt fuel depth ts = some (w, memberTokens l ++ rest) → 2 * (memberTokens l).length ≤ fuel →
    membersAt (fuel + 1) depth (.str (some k) :: .colon :: ts) =
      some ((some k, w) :: (writtenMembers l).map (fun m => (some m.1, m.2)), rest)
  | [], _, _, _, _, _, _, _, hfirst, _ => by
    rw [membersAt, hfirst]
    rfl
  | (name, x) :: l, k, depth, fuel, ts, rest, w, hl, hfirst, hfuel => by
    obtain ⟨hx, hl⟩ := List.forall_mem_cons.1 hl
    rw [memberTokens, List.length_cons, List.length_cons, List.length_cons, List.length_append]
      at hfuel
    obtain ⟨j, rfl⟩ : ∃ j, fuel = j + 1 := ⟨fuel - 1, by omega⟩
    have hnext : valueAt j depth (tokens x ++ (memberTokens l ++ rest)) =
        some (x.written, memberTokens l ++ rest) := valueAt_tokens x hx (by omega)
    have hmembers := membersAt_tokens l name hl hnext (by omega)
    rw [memberTokens, List.cons_append, List.cons_append, List.cons_append, List.append_assoc]
      at hfirst
    rw [membersAt, hfirst]
    dsimp only [Option.bind_eq_bind, Option.bind_some]
    rw [hmembers]
    rfl

end

/-- **Written documents are read back.** The text of a document that fits is read as the form of the
document. -/
theorem readBack_render {x : Json} (hx : x.written.Fits maxDepth) :
    parse? (render x) = some x.written := by
  have hvalue : valueAt (2 * (tokens x).length + 1) maxDepth (tokens x ++ []) =
      some (x.written, []) :=
    valueAt_tokens x hx (Nat.le_succ _)
  rw [List.append_nil] at hvalue
  unfold parse?
  rw [scan_render hx, Option.bind_some]
  unfold ofTokens?
  rw [hvalue]

end Written

end TenantFleet.Json
