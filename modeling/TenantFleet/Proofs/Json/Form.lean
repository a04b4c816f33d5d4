/-
# What is sent back of a document that was read

The form of a value says what is sent back of a document that it was read from: of a record the
known members, each in its form, and the others only where they are kept; of a list all items; no
null and no empty list where these are left out. So it can be told of every atom of the document
whether it is sent back, and as what.

* `Form.sends` : what is sent back of an atom at a place;
* `Form.Keeps` : that a value is sent back in a form, which each way to read and write one has a
  lemma for;
* `Form.carries_record` : a record is sent back in its form when its members are.
-/
import TenantFleet.Resource.Disk
import TenantFleet.Proofs.Json.Place

namespace TenantFleet

open Json (Step Atom atomIn valuesOf)

/-! ## What is read -/

namespace Reader

variable {α : Type} {read : Reader α} {names : List String} {ms : Members} {name : String}
  {x : Json.Written}

/-- The items of a list that is read are read one by one. -/
theorem exists_of_mapM {l : List Json.Written} {vs : List α} (h : l.mapM read = some vs) {i : Nat}
    (hx : l[i]? = some x) : ∃ v, read x = some v ∧ vs[i]? = some v := by
  induction l generalizing vs i with
  | nil => simp at hx
  | cons y rest ih =>
    rw [List.mapM_cons] at h
    obtain ⟨v, hv, h⟩ := Option.bind_eq_some_iff.1 h
    obtain ⟨others, hothers, h⟩ := Option.bind_eq_some_iff.1 h
    obtain rfl := Option.some.inj h
    cases i with
    | zero =>
      obtain rfl := Option.some.inj hx
      exact ⟨v, hv, rfl⟩
    | succ i => exact ih hothers hx

/-- What is read of the last value of a name is found in the dictionary. -/
theorem exists_of_dict {d : Dict α} (h : dict read (.obj ms) = some d)
    (hx : (values ms name).getLast? = some x) : ∃ v, read x = some v ∧ d.get? name = some v := by
  have hlast : x ∈ values ms name := List.mem_of_getLast? hx
  obtain ⟨m, hm, rfl⟩ := List.mem_map.1 hlast
  have hread := dict_isSome_iff.1 (Option.isSome_iff_exists.2 ⟨d, h⟩) m (List.mem_filter.1 hm).1
  obtain ⟨v, hv⟩ := Option.isSome_iff_exists.1 hread
  refine ⟨v, hv, ?_⟩
  rw [get?_of_dict h, hx]
  exact hv

/-- The values of members that are kept besides the known ones. -/
theorem values_others (names : List String) (ms : Members) (name : String) :
    values (ms.filter fun m => m.1 ∉ names) name =
      if name ∈ names then [] else values ms name := by
  unfold values
  rw [List.filter_filter]
  split
  · rename_i hname
    rw [List.filter_eq_nil_iff.2]
    · rfl
    · intro m _
      by_cases hm : m.1 = name <;> simp [hm, hname]
  · rename_i hname
    congr 1
    refine List.filter_congr fun m _ => ?_
    by_cases hm : m.1 = name <;> simp [hm, hname]

/-- A known name is none of the others. -/
theorem get?_others {extra : Dict Json} (h : others names ms = some extra) (hname : name ∈ names) :
    extra.get? name = none := by
  have hdict : dict any (.obj (ms.filter fun m => m.1 ∉ names)) = some extra := h
  rw [get?_of_dict hdict, values_others, if_pos hname]
  rfl

/-- A name that is not known has its last value among the others. -/
theorem exists_of_others {extra : Dict Json} (h : others names ms = some extra)
    (hname : name ∉ names)
    (hx : (values ms name).getLast? = some x) : ∃ y, any x = some y ∧ extra.get? name = some y := by
  have hdict : dict any (.obj (ms.filter fun m => m.1 ∉ names)) = some extra := h
  refine exists_of_dict hdict ?_
  rw [values_others, if_neg hname]
  exact hx

/-- What a record is read from: an object without doubled names, or the values of the first of the
names. -/
theorem members_cases (h : members names x = some ms) :
    (x = .obj ms ∧ unique names ms = true) ∨ ∃ items, x = .arr items ∧ ms = names.zip items := by
  unfold members at h
  split at h
  · split at h
    · rename_i hunique
      obtain rfl := Option.some.inj h
      exact Or.inl ⟨rfl, hunique⟩
    · cases h
  · split at h
    · exact Or.inr ⟨_, rfl, (Option.some.inj h).symm⟩
    · cases h
  · cases h

/-- How a member that may be missing is read: it is missing, null, or a value is read of it. -/
theorem optional_cases {v : Option α} (h : optional read ms name = some v) :
    (find? ms name = none ∧ v = none) ∨ (find? ms name = some .null ∧ v = none) ∨
      ∃ x w, find? ms name = some x ∧ x ≠ .null ∧ read x = some w ∧ v = some w := by
  unfold optional at h
  rw [find?_eq_head?]
  cases hvalues : values ms name with
  | nil =>
    rw [hvalues] at h
    exact Or.inl ⟨rfl, (Option.some.inj h).symm⟩
  | cons x rest =>
    obtain ⟨found, hfound, hv⟩ := Option.bind_eq_some_iff.1 h
    rw [hvalues, List.mapM_cons] at hfound
    obtain ⟨first, hfirst, hfound⟩ := Option.bind_eq_some_iff.1 hfound
    obtain ⟨others, -, hfound⟩ := Option.bind_eq_some_iff.1 hfound
    obtain rfl := Option.some.inj hfound
    obtain rfl : first = v := Option.some.inj hv
    unfold nullable at hfirst
    split at hfirst
    · exact Or.inr (Or.inl ⟨rfl, (Option.some.inj hfirst).symm⟩)
    · rename_i hnull
      obtain ⟨w, hread, rfl⟩ := Option.map_eq_some_iff.1 hfirst
      exact Or.inr (Or.inr ⟨x, w, rfl, fun h => hnull h, hread, rfl⟩)

/-- Among no members there is none. -/
@[simp] theorem optional_nil (read : Reader α) (name : String) :
    optional read [] name = some none := rfl

/-- Where a name is unique, the first value of it is the last one. -/
theorem find?_of_unique (hunique : unique names ms = true) (hname : name ∈ names) :
    find? ms name = (values ms name).getLast? := by
  have hlength := unique_iff.1 hunique name hname
  rw [find?_eq_head?]
  match values ms name, hlength with
  | [], _ => rfl
  | [y], _ => rfl

/-- A record that is written as an object is one that may be. -/
theorem members_of_namedMembers (h : namedMembers names x = some ms) :
    members names x = some ms := by
  unfold namedMembers at h
  split at h
  · exact h
  · cases h

end Reader

/-! ## Forms -/

/-- What is sent back of a document. -/
inductive Form
  /-- Nothing is sent back. -/
  | unsent
  /-- All is sent back as it stands. -/
  | kept
  /-- The name of a way to make content; all that are not known become one. -/
  | option
  /-- Something that is left out when it is null. -/
  | optional (f : Form)
  /-- Something that is left out when it is an empty list. -/
  | nonempty (f : Form)
  /-- A list of items. -/
  | items (f : Form)
  /-- A record of known members; whether the others are kept, and whether one without members is
  sent back so. -/
  | record (known : List (String × Form)) (others bare : Bool)

mutual

/-- What is sent back of an atom at a place. -/
def Form.sends : Form → List Step → Atom → Option Atom
  | .unsent, _, _ => none
  | .kept, _, a => some a
  | .option, [], .str s => some (.str (CreateOption.ofName s).name)
  | .option, _, _ => none
  | .optional f, p, a => if p = [] ∧ a = .null then none else f.sends p a
  | .nonempty f, p, a => if p = [] ∧ a = .noItems then none else f.sends p a
  | .items _, [], a => some a
  | .items f, .item _ :: p, a => f.sends p a
  | .items _, .member _ :: _, _ => none
  -- A record is an atom only when it has no members, whether it is written as an object or as a
  -- list.
  | .record _ _ bare, [], _ => if bare then some .noMembers else none
  | .record known others _, .member name :: p, a => sendsMember others name p a known
  | .record _ _ _, .item _ :: _, _ => none

/-- What is sent back of an atom in the member of the given name. -/
def sendsMember (others : Bool) (name : String) (p : List Step) (a : Atom) :
    List (String × Form) → Option Atom
  | [] => if others then some a else none
  | (key, f) :: known => if key = name then f.sends p a else sendsMember others name p a known

end

namespace Form

variable {α : Type} {f : Form} {read : Reader α} {write : α → Json}

/-- Whether a part is sent back in a form: its atoms are where the form sends them. -/
def Carries (f : Form) (found : Option Json.Written) (sent : Option Json) : Prop :=
  ∀ p a, found.bind (Json.Written.atomAt? p) = some a → atomIn sent p = f.sends p a

/-- Whether values are sent back in a form, as they are read and written. -/
def Keeps (f : Form) (read : Reader α) (write : α → Json) : Prop :=
  ∀ x v, read x = some v → f.Carries (some x) (some (write v))

/-- Of a part that is missing there is nothing to send back. -/
theorem Carries.missing (sent : Option Json) : f.Carries none sent := by
  intro p a h
  cases h

/-! ## Plain values -/

/-- Values that stand as they are read. -/
theorem keeps_of_written (h : ∀ x v, read x = some v → (write v).written = x) :
    Keeps .kept read write := by
  intro x v hread p a ha
  rw [← h x v hread] at ha
  exact ha

theorem keeps_text : Keeps .kept Reader.text .str := by
  refine keeps_of_written fun x s h => ?_
  cases x with
  | str t =>
    obtain rfl := Option.some.inj h
    rfl
  | _ => cases h

theorem keeps_int (lo hi : Int) : Keeps .kept (Reader.intIn lo hi) .int := by
  refine keeps_of_written fun x n h => ?_
  unfold Reader.intIn at h
  split at h
  · split at h
    · obtain rfl := Option.some.inj h
      rfl
    · cases h
  · cases h

theorem keeps_any : Keeps .kept Reader.any id := by
  intro x v h p a ha
  obtain ⟨y, hy, rfl⟩ := Option.map_eq_some_iff.1 h
  show y.canonical.written.atomAt? p = some a
  rw [Json.atomAt?_canonical, Json.written_of_value? x hy]
  exact ha

/-- An object of texts has the last one of each name. -/
theorem keeps_texts : Keeps .kept Reader.texts .ofTexts := by
  intro x d h p a ha
  cases x with
  | obj ms =>
    cases p with
    | nil =>
      cases ms with
      | nil =>
        obtain rfl := Option.some.inj h
        exact ha
      | cons m rest => cases ha
    | cons s p =>
      change (Json.Written.obj ms).atomAt? (s :: p) = some a at ha
      rw [Json.Written.atomAt?_cons] at ha
      cases s with
      | item i => cases ha
      | member name =>
        obtain ⟨y, hy, ha⟩ := Option.bind_eq_some_iff.1 ha
        obtain ⟨t, ht, hfound⟩ := Reader.exists_of_dict h hy
        rw [Json.atomIn_some_cons, Json.ofTexts, Json.into_ofDict, hfound]
        exact keeps_text y t ht p a ha
  | null | bool _ | num _ | str _ | arr _ | unreadable => cases h

/-- A name that is not known is sent back as another one. -/
theorem keeps_option : Keeps .option CreateOption.read CreateOption.toJson := by
  intro x o h p a ha
  unfold CreateOption.read at h
  split at h
  · rename_i s
    obtain rfl := Option.some.inj h
    obtain rfl := Json.Written.eq_nil_of_atomAt?_str ha
    obtain rfl := Option.some.inj ha
    rfl
  · -- A name can be written as an object, but then null is the only atom, and stands under the
    -- name.
    cases p with
    | nil => cases ha
    | cons step p => cases step <;> rfl
  · cases h

/-! ## Lists -/

theorem Keeps.items (hf : f.Keeps read write) :
    (Form.items f).Keeps (Reader.list read) fun l => .arr (l.map write) := by
  intro x vs h p a ha
  cases x with
  | arr l =>
    cases p with
    | nil =>
      cases l with
      | nil =>
        obtain rfl := Option.some.inj h
        exact ha
      | cons y rest => cases ha
    | cons s p =>
      change (Json.Written.arr l).atomAt? (s :: p) = some a at ha
      rw [Json.Written.atomAt?_cons] at ha
      cases s with
      | member name => cases ha
      | item i =>
        obtain ⟨y, hy, ha⟩ := Option.bind_eq_some_iff.1 ha
        obtain ⟨v, hread, hv⟩ := Reader.exists_of_mapM (l := l) h hy
        rw [Json.atomIn_some_cons, Json.into_arr, List.getElem?_map, hv]
        exact hf y v hread p a ha
  | null | bool _ | num _ | str _ | obj _ | unreadable => cases h

/-! ## Members -/

variable {ms : Reader.Members} {name : String} {v : α}

theorem Keeps.required (hf : f.Keeps read write) (h : Reader.required read ms name = some v) :
    f.Carries (Reader.find? ms name) (some (write v)) := by
  obtain ⟨x, hx, hread⟩ := Option.bind_eq_some_iff.1 h
  rw [hx]
  exact hf x v hread

theorem Keeps.defaulted {default : α} (hf : f.Keeps read write)
    (h : Reader.defaulted read default ms name = some v) :
    f.Carries (Reader.find? ms name) (some (write v)) := by
  unfold Reader.defaulted at h
  split at h
  · rename_i hx
    rw [hx]
    exact .missing _
  · rename_i x hx
    rw [hx]
    exact hf x v h

/-- A list that may be missing is left out when it is empty. -/
theorem Keeps.nonempty {write : List α → Json} {l : List α} (hf : f.Keeps (Reader.list read) write)
    (h : Reader.defaulted (Reader.list read) [] ms name = some l) :
    (Form.nonempty f).Carries (Reader.find? ms name)
    (if l.isEmpty then none else some (write l)) := by
  unfold Reader.defaulted at h
  split at h
  · rename_i hx
    rw [hx]
    exact .missing _
  · rename_i x hx
    rw [hx]
    intro p a ha
    cases x with
    | arr items =>
      cases items with
      | nil =>
        obtain rfl := Option.some.inj h
        cases p with
        | nil =>
          obtain rfl := Option.some.inj ha
          rfl
        | cons s p => cases s <;> cases ha
      | cons y rest =>
        -- A list with items is no atom, so nothing of it is left out, and it is read as one with
        -- items.
        have hsends : (Form.nonempty f).sends p a = f.sends p a := by
          rw [sends, if_neg]
          rintro ⟨rfl, -⟩
          cases ha
        have hempty : l.isEmpty = false := by
          cases l with
          | nil =>
            obtain ⟨v, -, hv⟩ := Reader.exists_of_mapM (l := y :: rest) (i := 0) h rfl
            cases hv
          | cons v vs => rfl
        rw [hsends, hempty]
        exact hf _ l h p a ha
    | null | bool _ | num _ | str _ | obj _ | unreadable => cases h

/-- A member that may be missing is left out when it is null. -/
theorem Keeps.optional {v : Option α} (hf : f.Keeps read write)
    (h : Reader.optional read ms name = some v) :
    (Form.optional f).Carries (Reader.find? ms name) (v.map write) := by
  rcases Reader.optional_cases h with ⟨hx, rfl⟩ | ⟨hx, rfl⟩ | ⟨x, w, hx, hnull, hread, rfl⟩
  · rw [hx]
    exact .missing _
  · rw [hx]
    intro p a ha
    obtain ⟨rfl, rfl⟩ := Json.Written.eq_nil_of_atomAt?_null ha
    rfl
  · rw [hx]
    intro p a ha
    have ha : x.atomAt? p = some a := ha
    have hsends : (Form.optional f).sends p a = f.sends p a := by
      rw [sends, if_neg]
      rintro ⟨rfl, rfl⟩
      exact hnull (Json.Written.eq_null_of_atom? ha)
    rw [hsends]
    exact hf x w hread p a ha

/-- What the cloud reports is not sent back. -/
theorem carries_unsent (found : Option Json.Written) : Carries .unsent found none :=
  fun _ _ _ => rfl

end Form

/-! ## Records -/

/-- Whether the known members of a record are sent back in their forms. -/
inductive Fields (ms : Reader.Members) : List (String × Form) → List (String × Option Json) → Prop
  | nil : Fields ms [] []
  | cons {name : String} {f : Form} {sent : Option Json} {known : List (String × Form)}
      {members : List (String × Option Json)} (h : f.Carries (Reader.find? ms name) sent)
      (rest : Fields ms known members) : Fields ms ((name, f) :: known) ((name, sent) :: members)

namespace Fields

variable {ms : Reader.Members} {known : List (String × Form)}
  {members : List (String × Option Json)}

/-- Under a name that is not known nothing is sent, and others go by the record. -/
theorem of_not_mem (h : Fields ms known members) {name : String} (hname : name ∉ known.map Prod.fst)
    (others : Bool) (p : List Step) (a : Atom) :
    valuesOf (Json.present members) name = [] ∧
      sendsMember others name p a known = if others then some a else none := by
  induction h with
  | nil => exact ⟨rfl, rfl⟩
  | @cons key f sent known members h rest ih =>
    rw [List.map_cons, List.mem_cons, not_or] at hname
    obtain ⟨hvalues, hsends⟩ := ih hname.2
    have hkey : key ≠ name := Ne.symm hname.1
    rw [Json.valuesOf_present_cons, if_neg hkey, hvalues, sendsMember, if_neg hkey, hsends]
    exact ⟨rfl, rfl⟩

/-- Under a known name stands what is sent of it, in its form. -/
theorem of_mem (h : Fields ms known members) (hnodup : (known.map Prod.fst).Nodup) {name : String}
    (hname : name ∈ known.map Prod.fst) (others : Bool) :
    ∃ (f : Form) (sent : Option Json), f.Carries (Reader.find? ms name) sent ∧
      valuesOf (Json.present members) name = sent.toList ∧
        ∀ p a, sendsMember others name p a known = f.sends p a := by
  induction h with
  | nil => cases hname
  | @cons key f sent known members h rest ih =>
    obtain ⟨hfirst, hrest⟩ := List.nodup_cons.1 hnodup
    by_cases hkey : key = name
    · subst hkey
      refine ⟨f, sent, h, ?_, fun p a => by rw [sendsMember, if_pos rfl]⟩
      rw [Json.valuesOf_present_cons, if_pos rfl, (rest.of_not_mem hfirst others [] .null).1,
        List.append_nil]
    · have hname : name ∈ known.map Prod.fst := by
        rcases List.mem_cons.1 hname with rfl | hname
        · exact absurd rfl hkey
        · exact hname
      obtain ⟨g, sent', hg, hvalues, hsends⟩ := ih hrest hname
      refine ⟨g, sent', hg, ?_, fun p a => by rw [sendsMember, if_neg hkey, hsends]⟩
      rw [Json.valuesOf_present_cons, if_neg hkey, hvalues, List.nil_append]

end Fields

namespace Form

variable {x : Json.Written} {ms : Reader.Members} {known : List (String × Form)}
  {members : List (String × Option Json)} {extra : Dict Json} {others bare : Bool} {name : String}
  {p : List Step} {a : Atom}

/-- The members of a record that are sent back besides the known ones: the others, or none. -/
def besides (others : Bool) (names : List String) (ms : Reader.Members) : Option (Dict Json) :=
  if others then Reader.others names ms else some .empty

/-- A known name is none of those. -/
theorem get?_besides {names : List String} (h : besides others names ms = some extra)
    (hname : name ∈ names) :
    extra.get? name = none := by
  cases others with
  | true => exact Reader.get?_others h hname
  | false =>
    obtain rfl := Option.some.inj h
    rfl

/-- Under a name that is not known stands what was there, if the others are sent back. -/
theorem atomIn_besides {names : List String} (h : besides others names ms = some extra)
    (hname : name ∉ names)
    (hx : (Reader.values ms name).getLast? = some x) (ha : x.atomAt? p = some a) :
    atomIn (extra.get? name) p = if others then some a else none := by
  cases others with
  | true =>
    obtain ⟨y, hy, hfound⟩ := Reader.exists_of_others h hname hx
    rw [hfound]
    exact keeps_any x y hy p a ha
  | false =>
    obtain rfl := Option.some.inj h
    rfl

/-- A record without members is sent back without members, unless a member is always sent. -/
theorem sends_record_nil (hmembers : Reader.members (known.map Prod.fst) x = some ms)
    (hextra : besides others (known.map Prod.fst) ms = some extra)
    (hbare : ms = [] → (members.any fun m => m.2.isSome) = !bare) (ha : x.atom? = some a) :
    (Json.object (extra.entries ++ Json.present members)).written.atom? =
      (record known others bare).sends [] a := by
  have hms : ms = [] := by
    rcases Reader.members_cases hmembers with ⟨rfl, -⟩ | ⟨items, rfl, rfl⟩
    · cases ms with
      | nil => rfl
      | cons m rest => cases ha
    · cases items with
      | nil => exact List.zip_nil_right
      | cons y rest => cases ha
  have hnone : extra.entries = [] := by
    subst hms
    cases others <;> cases hextra <;> rfl
  rw [hnone, List.nil_append, Json.atom?_object, Json.isEmpty_present, hbare hms,
    Bool.not_not, sends]

/-- A member of a record is sent back in its form, if it is known, or with the others. -/
theorem sends_record_member (hfields : Fields ms known members)
    (hnodup : (known.map Prod.fst).Nodup) (hunique : Reader.unique (known.map Prod.fst) ms = true)
    (hextra : besides others (known.map Prod.fst) ms = some extra)
    (hx : (valuesOf ms name).getLast? = some x) (ha : x.atomAt? p = some a) :
    atomIn (valuesOf (extra.entries ++ Json.present members) name).getLast? p =
      sendsMember others name p a known := by
  rw [Json.valuesOf_append, List.getLast?_append, Dict.getLast?_valuesOf_entries]
  by_cases hname : name ∈ known.map Prod.fst
  · obtain ⟨f, sent, hcarries, hsent, hsends⟩ := hfields.of_mem hnodup hname others
    rw [hsends, hsent, get?_besides hextra hname, Option.or_none]
    have hcarried := hcarries p a (by rw [Reader.find?_of_unique hunique hname]; exact hx ▸ ha)
    cases sent <;> exact hcarried
  · obtain ⟨hsent, hsends⟩ := hfields.of_not_mem hname others p a
    rw [hsends, hsent]
    exact atomIn_besides hextra hname hx ha

/-- A record is sent back in its form when its known members are, and the others are or none is. -/
theorem carries_record (hmembers : Reader.members (known.map Prod.fst) x = some ms)
    (hfields : Fields ms known members) (hnodup : (known.map Prod.fst).Nodup)
    (hextra : besides others (known.map Prod.fst) ms = some extra)
    (hbare : ms = [] → (members.any fun m => m.2.isSome) = !bare) :
    (record known others bare).Carries (some x)
      (some (.object (extra.entries ++ Json.present members))) := by
  intro p a ha
  have ha : x.atomAt? p = some a := ha
  cases p with
  | nil => exact sends_record_nil hmembers hextra hbare ha
  | cons s p =>
    rw [Json.Written.atomAt?_cons] at ha
    rw [Json.atomIn_some_cons]
    obtain ⟨y, hy, hatom⟩ := Option.bind_eq_some_iff.1 ha
    rcases Reader.members_cases hmembers with ⟨rfl, hunique⟩ | ⟨items, rfl, rfl⟩
    · cases s with
      | item i => cases hy
      | member name =>
        rw [Json.into_object, ← Json.atomIn_eq_bind]
        exact sends_record_member hfields hnodup hunique hextra hy hatom
    · -- What is written as a list has no names, and nothing stands at its items any more.
      cases s with
      | member name => cases hy
      | item i => rfl

/-- A record that keeps no others is sent back in its form when its members are. -/
theorem carries_closed (hmembers : Reader.members (known.map Prod.fst) x = some ms)
    (hfields : Fields ms known members) (hnodup : (known.map Prod.fst).Nodup)
    (hbare : ms = [] → (members.any fun m => m.2.isSome) = !bare) :
    (record known false bare).Carries (some x) (some (.record members)) := by
  have hextra : besides false (known.map Prod.fst) ms = some .empty := rfl
  exact carries_record hmembers hfields hnodup hextra hbare

end Form

end TenantFleet
