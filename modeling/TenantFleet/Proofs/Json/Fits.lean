/-
# Documents that texts are read as

A document that is read of a text is nested no deeper than the reader allows, and its integers have
64 bits. Only floating point numbers may be read otherwise than they are written, so a document
without them, and its canonical form, can be written and read again.

* `Written.Fits` : that a document can be written and read again, as far as depth and numbers go;
* `Written.Floatless` : that a document has no floating point numbers;
* `Written.fits_of_parse?` : documents of texts;
* `fits_canonical` : the canonical form of a document that fits does.
-/
import TenantFleet.Proofs.Json.Blanks
import TenantFleet.Proofs.Json.Same

namespace TenantFleet

namespace Json

/-! ## Depth and numbers -/

/-- Whether an integer has 64 bits, with a sign or without one. -/
def InRange (n : Int) : Prop := -(Nat.pow 2 63 : Int) ≤ n ∧ n < (Nat.pow 2 64 : Int)

instance (n : Int) : Decidable (InRange n) :=
  inferInstanceAs (Decidable (-(Nat.pow 2 63 : Int) ≤ n ∧ n < (Nat.pow 2 64 : Int)))

namespace Written

/-- Whether a document is nested at most so deep, and its numbers are integers of 64 bits. -/
inductive Fits : Nat → Written → Prop
  | null {depth : Nat} : Fits depth .null
  | bool {depth : Nat} (b : Bool) : Fits depth (.bool b)
  | int {depth : Nat} {n : Int} (h : InRange n) : Fits depth (.num (.int n))
  | str {depth : Nat} (s : String) : Fits depth (.str s)
  | arr {depth : Nat} {items : List Written} (h : ∀ x ∈ items, Fits depth x) :
      Fits (depth + 1) (.arr items)
  | obj {depth : Nat} {members : List (String × Written)} (h : ∀ m ∈ members, Fits depth m.2) :
    Fits (depth + 1) (.obj members)
  | unreadable {depth : Nat} : Fits depth .unreadable

/-- Whether no number of a document is a floating point number. -/
inductive Floatless : Written → Prop
  | null : Floatless .null
  | bool (b : Bool) : Floatless (.bool b)
  | int (n : Int) : Floatless (.num (.int n))
  | str (s : String) : Floatless (.str s)
  | arr {items : List Written} (h : ∀ x ∈ items, Floatless x) : Floatless (.arr items)
  | obj {members : List (String × Written)} (h : ∀ m ∈ members, Floatless m.2) :
      Floatless (.obj members)
  | unreadable : Floatless .unreadable

variable {depth depth' : Nat} {w : Written}

theorem fits_arr_nil : (arr []).Fits (depth + 1) := .arr fun _ hx => absurd hx List.not_mem_nil

theorem fits_obj_nil : (obj []).Fits (depth + 1) := .obj fun _ hm => absurd hm List.not_mem_nil

/-- What fits fits where more is allowed. -/
theorem Fits.mono (h : Fits depth w) (hle : depth ≤ depth') : Fits depth' w := by
  induction h generalizing depth' with
  | null => exact .null
  | bool b => exact .bool b
  | int h => exact .int h
  | str s => exact .str s
  | arr _ ih =>
    obtain ⟨k, rfl⟩ : ∃ k, depth' = k + 1 := ⟨depth' - 1, by omega⟩
    exact .arr fun x hx => ih x hx (by omega)
  | obj _ ih =>
    obtain ⟨k, rfl⟩ : ∃ k, depth' = k + 1 := ⟨depth' - 1, by omega⟩
    exact .obj fun m hm => ih m hm (by omega)
  | unreadable => exact .unreadable

end Written

/-! ## Documents of texts -/

namespace Token

variable {t : Token} {ts : List Token} {n : Option Number} {cs r front : List Char} {fuel : Nat}

/-- Whether a token is no integer of more than 64 bits. -/
def InRange : Token → Prop
  | .num (some (.int n)) => Json.InRange n
  | _ => True

/-- As many digits are taken as fit 64 bits. -/
theorem significand_le {acc : Nat} (hacc : acc ≤ maxUnsigned) (dropped : Nat) (ds : List Char) :
    (significand acc dropped ds).1 ≤ maxUnsigned := by
  induction ds generalizing acc dropped with
  | nil => exact hacc
  | cons c rest ih =>
    rw [significand]
    split
    · rename_i h
      exact ih h.2 0
    · exact ih hacc _

/-- The integers that numbers are read as have 64 bits. -/
theorem inRange_of_value? {p : Parts} {i : Int} (h : p.value? = some (.int i)) :
    Json.InRange i := by
  have hle := significand_le (Nat.zero_le maxUnsigned) 0 p.whole
  have hmax : maxUnsigned < Nat.pow 2 64 := by decide
  have hpow : Nat.pow 2 63 < Nat.pow 2 64 := by decide
  have hfloat {x : Option Binary64} :
      x.map Number.real ≠ some (.int i) := by cases x <;> exact nofun
  unfold Parts.value? at h
  generalize significand 0 0 p.whole = q at h hle
  obtain ⟨m, dropped⟩ := q
  dsimp only at h hle
  split at h
  · split at h
    · split at h
      · cases h
      · split at h
        · obtain rfl : -(m : Int) = i := by simpa using h
          unfold Json.InRange
          omega
        · exact absurd h hfloat
    · obtain rfl : (m : Int) = i := by simpa using h
      unfold Json.InRange
      omega
  · split at h
    · exact absurd h hfloat
    · split at h
      · split at h <;> cases h
      · exact absurd h hfloat

theorem inRange_of_number? {negative : Bool} (h : number? negative cs = some (n, r)) :
    InRange (.num n) := by
  rw [number?_eq] at h
  obtain ⟨ds, -, h⟩ := Option.bind_eq_some_iff.1 h
  obtain ⟨⟨f, rest⟩, -, h⟩ := Option.bind_eq_some_iff.1 h
  obtain ⟨⟨p, r'⟩, -, heq⟩ := Option.map_eq_some_iff.1 h
  cases heq
  cases hvalue : Parts.value? ⟨negative, ds, f, p⟩ with
  | none => trivial
  | some x =>
    cases x with
    | int i => exact inRange_of_value? hvalue
    | real x => trivial

/-- What is cut out of a text is in range. -/
theorem Lexeme.inRange (h : Lexeme front t) : t.InRange := by
  have hnil : Closes [] := fun c hc => by cases hc
  cases h with
  | @mark c t h =>
    unfold mark? at h
    split at h
    all_goals cases h
    all_goals trivial
  | nullWord | trueWord | falseWord | str h => trivial
  | positive _ _ hread => exact inRange_of_number? (hread [] hnil)
  | negative _ _ hread => exact inRange_of_number? (hread [] hnil)

/-- The tokens of a text are in range. -/
theorem inRange_of_scanFrom (h : scanFrom fuel cs = some ts) : ∀ t ∈ ts, t.InRange := by
  induction fuel generalizing cs ts with
  | zero =>
    cases cs with
    | nil =>
      cases h
      exact fun t ht => absurd ht List.not_mem_nil
    | cons c rest => cases h
  | succ fuel ih =>
    cases cs with
    | nil =>
      cases h
      exact fun t ht => absurd ht List.not_mem_nil
    | cons c rest =>
      rcases scanFrom_cases h with ⟨-, hrest⟩ | ⟨front, r, t, ts', -, hlexeme, hrest, rfl⟩
      · exact ih hrest
      · exact List.forall_mem_cons.2 ⟨hlexeme.inRange, ih hrest⟩

end Token

namespace Written

variable {depth : Nat} {w : Written}

/-- Members whose names have values are those of an object. -/
theorem ofMembers_map (ms : List (String × Written)) :
    ofMembers (ms.map fun m => (some m.1, m.2)) = .obj ms := by
  have hmapM : (ms.map fun m => (some m.1, m.2)).mapM (fun m => m.1.map fun k => (k, m.2)) =
      some ms := by
    induction ms with
    | nil => rfl
    | cons m rest ih =>
      rw [List.map_cons, List.mapM_cons, ih]
      rfl
  unfold ofMembers
  rw [hmapM]

/-- An object is made of members whose names have values. -/
theorem ofMembers_cases (l : List (Option String × Written)) :
    ofMembers l = .unreadable ∨ ∃ ms, l = ms.map (fun m => (some m.1, m.2)) ∧
    ofMembers l = .obj ms := by
  induction l with
  | nil => exact Or.inr ⟨[], rfl, rfl⟩
  | cons m rest ih =>
    obtain ⟨name, x⟩ := m
    cases name with
    | none => exact Or.inl rfl
    | some name =>
      rcases ih with hnone | ⟨ms, rfl, -⟩
      · left
        unfold ofMembers at hnone ⊢
        rw [List.mapM_cons]
        split at hnone
        · cases hnone
        · rename_i hmapM
          rw [hmapM]
          rfl
      · exact Or.inr ⟨(name, x) :: ms, rfl, ofMembers_map ((name, x) :: ms)⟩

/-- A list fits when it is nested too deep, or its items fit. -/
theorem fits_nested_arr {items : List Written} (h : ∀ x ∈ items, x.Floatless → x.Fits (depth - 1))
    (hfloat : (nested depth (.arr items)).Floatless) : (nested depth (.arr items)).Fits depth := by
  unfold nested at hfloat ⊢
  split
  · exact .unreadable
  · rename_i hdepth
    -- The depth was counted down once for the list, so it is not used up.
    rw [if_neg hdepth] at hfloat
    obtain ⟨k, rfl⟩ := Nat.exists_eq_succ_of_ne_zero hdepth
    cases hfloat with
    | arr hitems => exact .arr fun x hx => h x hx (hitems x hx)

/-- An object fits when it is nested too deep or a name has no value, or the values of its members
fit. -/
theorem fits_nested_ofMembers {l : List (Option String × Written)}
    (h : ∀ m ∈ l, m.2.Floatless → m.2.Fits (depth - 1))
    (hfloat : (nested depth (ofMembers l)).Floatless) :
    (nested depth (ofMembers l)).Fits depth := by
  unfold nested at hfloat ⊢
  split
  · exact .unreadable
  · rename_i hdepth
    rw [if_neg hdepth] at hfloat
    obtain ⟨k, rfl⟩ := Nat.exists_eq_succ_of_ne_zero hdepth
    rcases ofMembers_cases l with hnone | ⟨ms, rfl, hobj⟩
    · rw [hnone]
      exact .unreadable
    · rw [hobj] at hfloat ⊢
      cases hfloat with
      | obj hmembers => exact .obj fun m hm => h _ (List.mem_map.2 ⟨m, hm, rfl⟩) (hmembers m hm)

mutual

/-- A value without floating point numbers fits, and the tokens after it are in range. -/
theorem fits_of_valueAt : (fuel : Nat) → {depth : Nat} → {ts rest : List Token} → {w : Written} →
    valueAt fuel depth ts = some (w, rest) → (∀ t ∈ ts, t.InRange) →
    (∀ t ∈ rest, t.InRange) ∧ (w.Floatless → w.Fits depth)
  | 0, _, _, _, _, h, _ => by cases h
  | fuel + 1, depth, ts, rest, w, h, hts => by
    rw [valueAt.eq_def] at h
    split at h
    case h_1 heq => cases heq
    case h_2 => cases h; exact ⟨(List.forall_mem_cons.1 hts).2, fun _ => .null⟩
    case h_3 => cases h; exact ⟨(List.forall_mem_cons.1 hts).2, fun _ => .bool _⟩
    case h_4 n _ _ =>
      cases h
      obtain ⟨hn, hrest⟩ := List.forall_mem_cons.1 hts
      refine ⟨hrest, fun hfloat => ?_⟩
      cases n with
      | none => exact .unreadable
      | some x =>
        cases x with
        | int i => exact .int hn
        | real x => cases hfloat
    case h_5 s _ _ =>
      cases h
      refine ⟨(List.forall_mem_cons.1 hts).2, fun _ => ?_⟩
      cases s with
      | none => exact .unreadable
      | some s => exact .str s
    case h_6 heq =>
      cases heq
      obtain ⟨-, hts⟩ := List.forall_mem_cons.1 hts
      split at h
      · cases h
        exact ⟨(List.forall_mem_cons.1 hts).2, fits_nested_arr fun x hx =>
          absurd hx List.not_mem_nil⟩
      · obtain ⟨⟨l, rest'⟩, hitems, heq⟩ := Option.map_eq_some_iff.1 h
        cases heq
        obtain ⟨hrest, hl⟩ := fits_of_itemsAt fuel hitems hts
        exact ⟨hrest, fits_nested_arr hl⟩
    case h_7 heq =>
      cases heq
      obtain ⟨-, hts⟩ := List.forall_mem_cons.1 hts
      split at h
      · cases h
        exact ⟨(List.forall_mem_cons.1 hts).2, fits_nested_ofMembers fun m hm =>
          absurd hm List.not_mem_nil⟩
      · obtain ⟨⟨l, rest'⟩, hmembers, heq⟩ := Option.map_eq_some_iff.1 h
        cases heq
        obtain ⟨hrest, hl⟩ := fits_of_membersAt fuel hmembers hts
        exact ⟨hrest, fits_nested_ofMembers hl⟩
    all_goals cases h

/-- Items without floating point numbers fit. -/
theorem fits_of_itemsAt : (fuel : Nat) → {depth : Nat} → {ts rest : List Token} →
    {l : List Written} → itemsAt fuel depth ts = some (l, rest) → (∀ t ∈ ts, t.InRange) →
    (∀ t ∈ rest, t.InRange) ∧ ∀ x ∈ l, x.Floatless → x.Fits depth
  | 0, _, _, _, _, h, _ => by cases h
  | fuel + 1, depth, ts, rest, l, h, hts => by
    rw [itemsAt] at h
    obtain ⟨⟨x, rest₁⟩, hvalue, h⟩ := Option.bind_eq_some_iff.1 h
    obtain ⟨hrest₁, hx⟩ := fits_of_valueAt fuel hvalue hts
    dsimp only at h
    split at h
    · obtain ⟨⟨xs, rest₂⟩, hitems, heq⟩ := Option.bind_eq_some_iff.1 h
      cases heq
      obtain ⟨hrest₂, hxs⟩ := fits_of_itemsAt fuel hitems (List.forall_mem_cons.1 hrest₁).2
      exact ⟨hrest₂, List.forall_mem_cons.2 ⟨hx, hxs⟩⟩
    · -- The list ends behind this item.
      cases h
      exact ⟨(List.forall_mem_cons.1 hrest₁).2, List.forall_mem_singleton.2 hx⟩
    · cases h

/-- The values of members without floating point numbers fit. -/
theorem fits_of_membersAt : (fuel : Nat) → {depth : Nat} → {ts rest : List Token} →
    {l : List (Option String × Written)} → membersAt fuel depth ts = some (l, rest) →
    (∀ t ∈ ts, t.InRange) → (∀ t ∈ rest, t.InRange) ∧ ∀ m ∈ l, m.2.Floatless → m.2.Fits depth
  | 0, _, _, _, _, h, _ => by cases h
  | fuel + 1, depth, ts, rest, l, h, hts => by
    rw [membersAt.eq_def] at h
    split at h
    · rename_i heq
      cases heq
    · rename_i heq
      cases heq
      obtain ⟨-, hts⟩ := List.forall_mem_cons.1 hts
      obtain ⟨⟨x, rest₁⟩, hvalue, h⟩ := Option.bind_eq_some_iff.1 h
      obtain ⟨hrest₁, hx⟩ := fits_of_valueAt fuel hvalue (List.forall_mem_cons.1 hts).2
      dsimp only at h
      split at h
      · obtain ⟨⟨xs, rest₂⟩, hmembers, heq⟩ := Option.bind_eq_some_iff.1 h
        cases heq
        obtain ⟨hrest₂, hxs⟩ := fits_of_membersAt fuel hmembers (List.forall_mem_cons.1 hrest₁).2
        exact ⟨hrest₂, List.forall_mem_cons.2 ⟨hx, hxs⟩⟩
      · cases h
        exact ⟨(List.forall_mem_cons.1 hrest₁).2, List.forall_mem_singleton.2 hx⟩
      · cases h
    · cases h

end

/-- A document of a text fits when it has no floating point numbers. -/
theorem fits_of_parse? {text : String} (h : parse? text = some w) (hfloat : w.Floatless) :
    w.Fits maxDepth := by
  obtain ⟨ts, hscan, hdocument⟩ := Option.bind_eq_some_iff.1 h
  unfold ofTokens? at hdocument
  split at hdocument
  · rename_i x hvalue
    cases hdocument
    exact (fits_of_valueAt _ hvalue (Token.inRange_of_scanFrom hscan)).2 hfloat
  · cases hdocument

end Written

/-! ## Forms of documents -/

variable {x : Json} {depth : Nat}

theorem fits_arr_iff {items : List Json} :
    (Json.arr items).written.Fits (depth + 1) ↔ ∀ x ∈ items, x.written.Fits depth := by
  have hitems : (∀ y ∈ writtenItems items, y.Fits depth) ↔ ∀ x ∈ items, x.written.Fits depth := by
    rw [writtenItems_eq_map, List.forall_mem_map]
  rw [← hitems]
  exact ⟨fun h => by cases h with | arr h => exact h, fun h => .arr h⟩

theorem fits_obj_iff {ms : List (String × Json)} :
    (Json.obj ms).written.Fits (depth + 1) ↔ ∀ m ∈ ms, m.2.written.Fits depth := by
  have hmembers : (∀ m ∈ writtenMembers ms, m.2.Fits depth) ↔ ∀ m ∈ ms, m.2.written.Fits depth := by
    rw [writtenMembers_eq_map, List.forall_mem_map]
  rw [← hmembers]
  exact ⟨fun h => by cases h with | obj h => exact h, fun h => .obj h⟩

mutual

/-- The canonical form of a document that fits does. -/
theorem fits_canonical : (x : Json) → {depth : Nat} → x.written.Fits depth →
    x.canonical.written.Fits depth
  | .null, _, h | .bool _, _, h | .num _, _, h | .str _, _, h => h
  | .arr items, 0, h => by cases h
  | .arr items, depth + 1, h => fits_arr_iff.2 (fits_canonicalItems items (fits_arr_iff.1 h))
  | .obj ms, 0, h => by cases h
  | .obj ms, depth + 1, h => by
    refine fits_obj_iff.2 fun m hm => ?_
    exact fits_canonicalMembers ms (fits_obj_iff.1 h) m
      (Dict.mem_of_get?_ofList (Dict.mem_entries.1 hm))

theorem fits_canonicalItems : (l : List Json) → {depth : Nat} → (∀ x ∈ l, x.written.Fits depth) →
    ∀ x ∈ canonicalItems l, x.written.Fits depth
  | [], _, h => h
  | x :: rest, _, h => by
    obtain ⟨hx, hrest⟩ := List.forall_mem_cons.1 h
    exact List.forall_mem_cons.2 ⟨fits_canonical x hx, fits_canonicalItems rest hrest⟩

theorem fits_canonicalMembers :
    (l : List (String × Json)) → {depth : Nat} → (∀ m ∈ l, m.2.written.Fits depth) →
    ∀ m ∈ canonicalMembers l, m.2.written.Fits depth
  | [], _, h => h
  | (name, x) :: rest, _, h => by
    obtain ⟨hx, hrest⟩ := List.forall_mem_cons.1 h
    exact List.forall_mem_cons.2 ⟨fits_canonical x hx, fits_canonicalMembers rest hrest⟩

end

end Json

end TenantFleet
