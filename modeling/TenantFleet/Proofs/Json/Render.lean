/-
# The text of a document says which one it is

Different documents have different texts when their numbers are integers. A text in quotes ends
where the reader of quoted texts ends, a number where its digits end, and a list or an object with
its bracket, so a text can be taken apart in one way only.

* `integral` : that all numbers of a document are integers;
* `numberText_append_inj` : where numbers end;
* `renderChars_append_inj` : where documents end;
* `normalText_eq_iff` : documents have one normal text exactly when they are the same value.
-/
import TenantFleet.Proofs.Json.Quoted
import TenantFleet.Proofs.Json.Same
import TenantFleet.Proofs.Text.Numeral

namespace TenantFleet.Json

/-! ## Numbers that are integers -/

mutual

/-- Whether all numbers of a document are integers. -/
def integral : Json → Bool
  | .null => true
  | .bool _ => true
  | .num (.int _) => true
  | .num (.real _) => false
  | .str _ => true
  | .arr items => integralItems items
  | .obj members => integralMembers members

/-- Whether all numbers of the items are integers. -/
def integralItems : List Json → Bool
  | [] => true
  | x :: rest => integral x && integralItems rest

/-- Whether all numbers of the values of members are integers. -/
def integralMembers : List (String × Json) → Bool
  | [] => true
  | (_, x) :: rest => integral x && integralMembers rest

end

variable {x y : Json} {r r' : List Char}

/-! ## Numbers -/

theorem numberText_ofNat (m : Nat) : numberText (.int (Int.ofNat m)) = Nat.toDigits 10 m := by
  show (Nat.repr m).toList = _
  rw [Nat.toList_repr]

theorem numberText_negSucc (m : Nat) :
    numberText (.int (Int.negSucc m)) = '-' :: Nat.toDigits 10 (m + 1) := by
  show ("-" ++ Nat.repr (m + 1)).toList = _
  rw [String.toList_append, Nat.toList_repr]
  rfl

/-- The text of an integer ends in one place, and says which integer it is. -/
theorem numberText_append_inj {m n : Int} (hr : NoDigit r) (hr' : NoDigit r')
    (h : numberText (.int m) ++ r = numberText (.int n) ++ r') : m = n ∧ r = r' := by
  -- No digit is a sign, so both have one or none.
  have hsign : ∀ (k : Nat) (l l' : List Char), Nat.toDigits 10 k ++ l ≠ '-' :: l' := by
    intro k l l' heq
    obtain ⟨c, ds, hds, hdigit⟩ := toDigits_eq_cons k
    rw [hds] at heq
    obtain ⟨rfl, -⟩ := List.cons.inj heq
    exact absurd hdigit (by decide)
  cases m with
  | ofNat m =>
    cases n with
    | ofNat n =>
      rw [numberText_ofNat, numberText_ofNat] at h
      obtain ⟨rfl, hrest⟩ := toDigits_append_inj hr hr' h
      exact ⟨rfl, hrest⟩
    | negSucc n =>
      rw [numberText_ofNat, numberText_negSucc] at h
      exact absurd h (hsign m r _)
  | negSucc m =>
    cases n with
    | ofNat n =>
      rw [numberText_ofNat, numberText_negSucc] at h
      exact absurd h.symm (hsign n r' _)
    | negSucc n =>
      rw [numberText_negSucc, numberText_negSucc] at h
      obtain ⟨hmn, hrest⟩ := toDigits_append_inj hr hr' (List.cons.inj h).2
      exact ⟨by rw [Nat.succ.inj hmn], hrest⟩

/-! ## Documents -/

/-- The character at the head of the text of a document, one for all numbers. -/
def lead : Json → Char
  | .null => 'n'
  | .bool true => 't'
  | .bool false => 'f'
  | .num _ => '0'
  | .str _ => '"'
  | .arr _ => '['
  | .obj _ => '\x7b'

/-- One character for digits and the sign, and every other one for itself. -/
def leadOf (c : Char) : Char := if c.isDigit || c = '-' then '0' else c

/-- At the head of the text of a document is its character. -/
theorem renderChars_eq_cons (x : Json) (hx : integral x = true) :
    ∃ c cs, renderChars x = c :: cs ∧ leadOf c = lead x := by
  match x, hx with
  | .null, _ => exact ⟨_, _, rfl, rfl⟩
  | .bool true, _ => exact ⟨_, _, rfl, rfl⟩
  | .bool false, _ => exact ⟨_, _, rfl, rfl⟩
  | .num (.int (.ofNat n)), _ =>
    obtain ⟨c, ds, hds, hdigit⟩ := toDigits_eq_cons n
    refine ⟨c, ds, ?_, ?_⟩
    · rw [renderChars, numberText_ofNat, hds]
    · rw [leadOf, hdigit]
      rfl
  | .num (.int (.negSucc n)), _ => exact ⟨'-', _, by rw [renderChars, numberText_negSucc], rfl⟩
  | .str s, _ => exact ⟨_, _, rfl, rfl⟩
  | .arr [], _ => exact ⟨_, _, rfl, rfl⟩
  | .arr (_ :: _), _ => exact ⟨_, _, rfl, rfl⟩
  | .obj [], _ => exact ⟨_, _, rfl, rfl⟩
  | .obj ((_, _) :: _), _ => exact ⟨_, _, rfl, rfl⟩

/-- Documents of one kind. The kinds are told apart by the character at the head of the text. -/
inductive Alike : Json → Json → Prop
  | null : Alike .null .null
  | bool (b : Bool) : Alike (.bool b) (.bool b)
  | num (n n' : Number) : Alike (.num n) (.num n')
  | str (s s' : String) : Alike (.str s) (.str s')
  | arr (items items' : List Json) : Alike (.arr items) (.arr items')
  | obj (ms ms' : List (String × Json)) : Alike (.obj ms) (.obj ms')

theorem alike_of_lead (h : lead x = lead y) : Alike x y := by
  unfold lead at h
  split at h
  all_goals
    split at h
    all_goals first | constructor | exact absurd h (by decide)

/-- What follows an item or a member begins with no digit. -/
theorem noDigit_renderItems (items : List Json) (r : List Char) :
    NoDigit (renderItems items ++ r) := by
  intro c hc
  cases items <;> cases hc <;> decide

theorem noDigit_renderMembers (ms : List (String × Json)) (r : List Char) :
    NoDigit (renderMembers ms ++ r) := by
  intro c hc
  cases ms <;> cases hc <;> decide

/-- Documents whose texts begin alike are of one kind. -/
theorem alike_of_renderChars (hx : integral x = true) (hy : integral y = true)
    (h : renderChars x ++ r = renderChars y ++ r') : Alike x y := by
  obtain ⟨c, cs, hcs, hc⟩ := renderChars_eq_cons x hx
  obtain ⟨c', cs', hcs', hc'⟩ := renderChars_eq_cons y hy
  rw [hcs, hcs'] at h
  obtain ⟨rfl, -⟩ := List.cons.inj h
  exact alike_of_lead (hc.symm.trans hc')

/-- No document begins with a closing bracket. -/
theorem renderChars_ne_close (hx : integral x = true) (r r' : List Char) :
    ']' :: r' ≠ renderChars x ++ r := by
  intro heq
  obtain ⟨c, cs, hcs, hc⟩ := renderChars_eq_cons x hx
  rw [hcs] at heq
  obtain ⟨rfl, -⟩ := List.cons.inj heq
  have hlead : lead x ≠ leadOf ']' := by
    unfold lead
    split
    all_goals decide
  exact hlead hc.symm

/-- Lists whose texts begin alike have items whose texts do. -/
theorem renderItems_of_arr {items items' : List Json} (hx : integralItems items = true)
    (hy : integralItems items' = true)
    (h : renderChars (.arr items) ++ r = renderChars (.arr items') ++ r') :
    renderItems items ++ r = renderItems items' ++ r' := by
  match items, items', hx, hy with
  | [], [], _, _ => exact (List.cons.inj h).2
  | [], y :: rest', _, hy =>
    rw [integralItems, Bool.and_eq_true] at hy
    simp only [renderChars, List.cons_append, List.append_assoc, List.nil_append] at h
    exact absurd (List.cons.inj h).2 (renderChars_ne_close hy.1 _ _)
  | x :: rest, [], hx, _ =>
    rw [integralItems, Bool.and_eq_true] at hx
    simp only [renderChars, List.cons_append, List.append_assoc, List.nil_append] at h
    exact absurd (List.cons.inj h).2.symm (renderChars_ne_close hx.1 _ _)
  | x :: rest, y :: rest', _, _ => exact congrArg (',' :: ·) (List.cons.inj h).2

/-- Objects whose texts begin alike have members whose texts do. -/
theorem renderMembers_of_obj {ms ms' : List (String × Json)}
    (h : renderChars (.obj ms) ++ r = renderChars (.obj ms') ++ r') :
    renderMembers ms ++ r = renderMembers ms' ++ r' := by
  match ms, ms' with
  | [], [] => exact (List.cons.inj h).2
  | [], (_, _) :: _ => exact absurd (List.cons.inj (List.cons.inj h).2).1 (by decide)
  | (_, _) :: _, [] => exact absurd (List.cons.inj (List.cons.inj h).2).1 (by decide)
  | (_, _) :: _, (_, _) :: _ => exact congrArg (',' :: ·) (List.cons.inj h).2

mutual

/-- The text of a document ends in one place, and says which document it is. -/
theorem renderChars_append_inj : (x y : Json) → integral x = true → integral y = true →
    {r r' : List Char} →
    NoDigit r → NoDigit r' → renderChars x ++ r = renderChars y ++ r' → x = y ∧ r = r'
  | .null, y, hx, hy, r, r', _, _, h => by
    cases alike_of_renderChars hx hy h
    exact ⟨rfl, List.append_cancel_left h⟩
  | .bool b, y, hx, hy, r, r', _, _, h => by
    cases alike_of_renderChars hx hy h
    exact ⟨rfl, List.append_cancel_left h⟩
  | .num n, y, hx, hy, r, r', hr, hr', h => by
    cases alike_of_renderChars hx hy h with
    | num _ n' =>
      cases n with
      | real v => cases hx
      | int m =>
        cases n' with
        | real v => cases hy
        | int m' =>
          obtain ⟨rfl, hrest⟩ := numberText_append_inj hr hr' h
          exact ⟨rfl, hrest⟩
  | .str s, y, hx, hy, r, r', _, _, h => by
    cases alike_of_renderChars hx hy h with
    | str _ s' =>
      obtain ⟨rfl, hrest⟩ := quote_append_inj h
      exact ⟨rfl, hrest⟩
  | .arr items, y, hx, hy, r, r', _, _, h => by
    cases alike_of_renderChars hx hy h with
    | arr _ items' =>
      obtain ⟨rfl, hrest⟩ := renderItems_append_inj items items' hx hy (renderItems_of_arr hx hy h)
      exact ⟨rfl, hrest⟩
  | .obj ms, y, hx, hy, r, r', _, _, h => by
    cases alike_of_renderChars hx hy h with
    | obj _ ms' =>
      obtain ⟨rfl, hrest⟩ := renderMembers_append_inj ms ms' hx hy (renderMembers_of_obj h)
      exact ⟨rfl, hrest⟩

/-- The items of a list end with its bracket. -/
theorem renderItems_append_inj :
    (l l' : List Json) → integralItems l = true → integralItems l' = true →
    {r r' : List Char} → renderItems l ++ r = renderItems l' ++ r' → l = l' ∧ r = r'
  | [], [], _, _, _, _, h => ⟨rfl, List.append_cancel_left h⟩
  | [], _ :: _, _, _, _, _, h => absurd (List.cons.inj h).1 (by decide)
  | _ :: _, [], _, _, _, _, h => absurd (List.cons.inj h).1 (by decide)
  | x :: rest, y :: rest', hx, hy, r, r', h => by
    rw [integralItems, Bool.and_eq_true] at hx hy
    simp only [renderItems, List.cons_append, List.append_assoc] at h
    obtain ⟨rfl, hitems⟩ := renderChars_append_inj x y hx.1 hy.1 (noDigit_renderItems _ _)
      (noDigit_renderItems _ _) (List.cons.inj h).2
    obtain ⟨rfl, hrest⟩ := renderItems_append_inj rest rest' hx.2 hy.2 hitems
    exact ⟨rfl, hrest⟩

/-- The members of an object end with its bracket. -/
theorem renderMembers_append_inj : (l l' : List (String × Json)) → integralMembers l = true →
    integralMembers l' = true → {r r' : List Char} → renderMembers l ++ r = renderMembers l' ++ r' →
    l = l' ∧ r = r'
  | [], [], _, _, _, _, h => ⟨rfl, List.append_cancel_left h⟩
  | [], (_, _) :: _, _, _, _, _, h => absurd (List.cons.inj h).1 (by decide)
  | (_, _) :: _, [], _, _, _, _, h => absurd (List.cons.inj h).1 (by decide)
  | (k, x) :: rest, (k', y) :: rest', hx, hy, r, r', h => by
    rw [integralMembers, Bool.and_eq_true] at hx hy
    simp only [renderMembers, List.cons_append, List.append_assoc] at h
    obtain ⟨rfl, hvalue⟩ := quote_append_inj (List.cons.inj h).2
    obtain ⟨rfl, hmembers⟩ := renderChars_append_inj x y hx.1 hy.1 (noDigit_renderMembers _ _)
      (noDigit_renderMembers _ _) (List.cons.inj hvalue).2
    obtain ⟨rfl, hrest⟩ := renderMembers_append_inj rest rest' hx.2 hy.2 hmembers
    exact ⟨rfl, hrest⟩

end

/-- Different documents whose numbers are integers have different texts. -/
theorem render_inj (hx : integral x = true) (hy : integral y = true)
    (h : render x = render y) : x = y := by
  have hnil : NoDigit [] := fun c hc => by cases hc
  have hchars : renderChars x = renderChars y := by
    unfold render at h
    exact String.ofList_injective h
  exact (renderChars_append_inj x y hx hy hnil hnil (congrArg (· ++ []) hchars)).1

/-! ## Normal texts -/

theorem integralMembers_eq_all (ms : List (String × Json)) :
    integralMembers ms = ms.all fun m => integral m.2 := by
  induction ms with
  | nil => rfl
  | cons m rest ih => rw [integralMembers, ih, List.all_cons]

mutual

/-- The numbers of the canonical form are numbers of the document. -/
theorem integral_canonical : (x : Json) → integral x = true → integral (canonical x) = true
  | .null, _ => rfl
  | .bool _, _ => rfl
  | .num _, h => h
  | .str _, _ => rfl
  | .arr items, h => integral_canonicalItems items h
  | .obj ms, h => by
    have hall := integral_canonicalMembers ms h
    rw [integralMembers_eq_all, List.all_eq_true] at hall
    rw [canonical, integral, integralMembers_eq_all, List.all_eq_true]
    exact fun m hm => hall m (Dict.mem_of_get?_ofList (Dict.mem_entries.1 hm))

theorem integral_canonicalItems :
    (l : List Json) → integralItems l = true → integralItems (canonicalItems l) = true
  | [], _ => rfl
  | x :: rest, h => by
    rw [integralItems, Bool.and_eq_true] at h
    rw [canonicalItems, integralItems, integral_canonical x h.1, integral_canonicalItems rest h.2]
    rfl

theorem integral_canonicalMembers : (ms : List (String × Json)) → integralMembers ms = true →
    integralMembers (canonicalMembers ms) = true
  | [], _ => rfl
  | (_, x) :: rest, h => by
    rw [integralMembers, Bool.and_eq_true] at h
    rw [canonicalMembers, integralMembers, integral_canonical x h.1,
      integral_canonicalMembers rest h.2]
    rfl

end

/-- **Normal texts.** Documents whose numbers are integers have one normal text exactly when they
are the same value. -/
theorem normalText_eq_iff (hx : integral x = true) (hy : integral y = true) :
    x.normalText = y.normalText ↔ Same x y := by
  rw [← canonical_eq_iff]
  constructor
  · exact fun h => render_inj (integral_canonical x hx) (integral_canonical y hy) h
  · exact fun h => congrArg render h

end TenantFleet.Json
