/-
# Which disks are made

A pass looks for the disks of the members one after the other and makes those that are not found, in
the zones by turns, until something else fails. What a run asks and how it ends follows six rules,
one for each way on from a look-up; what is said about a whole run is shown rule by rule.

* `Filling` : the calls behind the listing of the snapshots, and the end;
* `Fills` : that the missing disks are made, and nothing else is;
* `filling_makeDisks` : a run follows the rules;
* `Filling.fills` : what follows the rules fills the gaps.
-/
import TenantFleet.Proofs.Etcd.Choice

namespace TenantFleet.Etcd

open Program

variable {ω : Type} {c : AzureConfig} {zones : List String} {snapshots : List Snapshot} {k : Nat}
  {names : List String} {trace : List Asked} {r : Except Error Unit}

/-! ## What is looked for, missed and made -/

/-- The disk that a call looks for. -/
def soughtBy : Call → Option String
  | .cloud _ _ (.getDisk n) => some n
  | _ => none

/-- The disks that were looked for, in the order of the calls. -/
def sought (trace : List Asked) : List String := trace.filterMap fun a => soughtBy a.call

/-- The disk that was not found. -/
def missedBy : Asked → Option String
  | ⟨.cloud _ _ (.getDisk n), .error e⟩ => if e.isNotFound then some n else none
  | _ => none

/-- The disks that were not found, in the order of the calls. -/
def missed (trace : List Asked) : List String := trace.filterMap missedBy

/-- The disk that a call makes. -/
def madeBy : Call → Option (String × Disk)
  | .cloud _ _ (.putDisk n d) => some (n, d)
  | _ => none

/-- The disks that were to be made, in the order of the calls. -/
def made (trace : List Asked) : List (String × Disk) := trace.filterMap fun a => madeBy a.call

/-- Whether a call failed, other than a look-up of a disk that is missing. -/
def Fatal (a : Asked) : Prop := a.result.toBool = false ∧ missedBy a = none

/-- How a run ends: well when no call was fatal, else with the first fatal call, whose failure is
its own. -/
inductive Ending : List Asked → Except Error Unit → Prop
  | well {trace : List Asked} (htrace : ∀ a ∈ trace, ¬Fatal a) : Ending trace (.ok ())
  | badly (before : List Asked) {call : Call} {e : call.Failure} (hbefore : ∀ a ∈ before, ¬Fatal a)
    (hcall : Fatal ⟨call, .error e⟩) : Ending (before ++ [⟨call, .error e⟩]) (.error (call.raise e))

/-! ## What is wanted -/

/-- Whether a snapshot has the tags of a member's disk of a name. -/
def TakenFrom (n : String) (s : Snapshot) : Prop :=
  s.tags.get? Tag.diskRole = some Tag.etcdRole ∧ s.tags.get? Tag.snapshotDisk = some n

/-- Whether a disk of a name is as it is to be made: in the region of the cluster and in a zone,
with the role of a member's disk and nothing else in its tags, of 100 GiB, and with the content of
the first snapshot of its name, or empty when there is none. -/
structure Wanted (c : AzureConfig) (zone : String) (snapshots : List Snapshot) (n : String)
    (d : Disk) : Prop where
  location : d.location = c.location
  tags : d.tags = Dict.empty.insert Tag.diskRole Tag.etcdRole
  zones : d.zones = [zone]
  size : d.sizeGB = some 100
  content : (∃ s, IsFirst (TakenFrom n) snapshots s ∧ d.creation = ⟨.copy, s.id⟩) ∨
    ((∀ s ∈ snapshots, ¬TakenFrom n s) ∧ d.creation = ⟨.empty, none⟩)

/-- Whether the calls of a run and its end fill the gaps among disks and do nothing else; `k` disks
were made before. -/
structure Fills (c : AzureConfig) (zones : List String) (snapshots : List Snapshot) (k : Nat)
    (names : List String) (trace : List Asked) (r : Except Error Unit) : Prop where
  /-- Disks of the cluster are looked for and made. -/
  calls : ∀ a ∈ trace, (∃ n, a.call = .cloud c.group.account c.group.name (.getDisk n)) ∨
    ∃ n d, a.call = .cloud c.group.account c.group.name (.putDisk n d)
  /-- The disks are looked for one after the other. -/
  sought : Etcd.sought trace <+: names
  /-- When the run ends well all disks were looked for, unless there is no zone. -/
  all : zones ≠ [] → r = .ok () → Etcd.sought trace = names
  /-- Exactly the disks that were not found are made. -/
  missed : zones ≠ [] → (made trace).map Prod.fst = Etcd.missed trace
  /-- They are made in the order of the disks. -/
  order : ((made trace).map Prod.fst).Sublist names
  /-- Without a zone no disk is made. -/
  noZone : zones = [] → made trace = []
  /-- The disks are made in the zones by turns. -/
  wanted : ∀ i n d, (made trace)[i]? = some (n, d) →
    ∃ zone, zones[(k + i) % zones.length]? = some zone ∧ Wanted c zone snapshots n d
  /-- The first call that fails, other than for a disk that is missing, is the last one. -/
  ending : Ending trace r

/-! ## The rules -/

/-- The calls of a run and its end, `k` disks having been made before. -/
inductive Filling (c : AzureConfig) (zones : List String) (snapshots : List Snapshot) :
    Nat → List String → List Asked → Except Error Unit → Prop
  /-- No disk is left to look for. -/
  | finished (k : Nat) : Filling c zones snapshots k [] [] (.ok ())
  /-- A disk is there. -/
  | found (n : String) (d : Disk) {k : Nat} {names : List String} {trace : List Asked}
    {r : Except Error Unit} (h : Filling c zones snapshots k names trace r) :
    Filling c zones snapshots k (n :: names)
      (⟨.cloud c.group.account c.group.name (.getDisk n), .ok d⟩ :: trace) r
  /-- Whether a disk is there is not known. -/
  | unknown (n : String) (e : AzureError) (k : Nat) (names : List String)
    (he : e.isNotFound = false) :
    Filling c zones snapshots k (n :: names)
      [⟨.cloud c.group.account c.group.name (.getDisk n), .error e⟩] (.error (.azure e))
  /-- A disk is missing, and there is no zone. -/
  | stuck (n : String) (e : AzureError) (k : Nat) (names : List String) (he : e.isNotFound = true)
    (hzone : zones[k % zones.length]? = none) :
    Filling c zones snapshots k (n :: names)
      [⟨.cloud c.group.account c.group.name (.getDisk n), .error e⟩] (.ok ())
  /-- A disk is missing and cannot be made. -/
  | refused (n : String) (e e' : AzureError) (k : Nat) (names : List String) (zone : String)
    (he : e.isNotFound = true) (hzone : zones[k % zones.length]? = some zone) :
    Filling c zones snapshots k (n :: names)
      [⟨.cloud c.group.account c.group.name (.getDisk n), .error e⟩,
        ⟨.cloud c.group.account c.group.name (.putDisk n (newDisk c zone (contentFor snapshots n))),
          .error e'⟩]
      (.error (.azure e'))
  /-- A disk is missing and made. -/
  | made (n : String) (e : AzureError) (zone : String) (op : Operation) {k : Nat}
    {names : List String} {trace : List Asked} {r : Except Error Unit} (he : e.isNotFound = true)
    (hzone : zones[k % zones.length]? = some zone)
    (h : Filling c zones snapshots (k + 1) names trace r) :
    Filling c zones snapshots k (n :: names)
      (⟨.cloud c.group.account c.group.name (.getDisk n), .error e⟩ ::
        ⟨.cloud c.group.account c.group.name (.putDisk n (newDisk c zone (contentFor snapshots n))),
          .ok op⟩ :: trace) r

/-- A run follows the rules. -/
theorem filling_makeDisks (h : Handler ω) (c : AzureConfig) (zones : List String)
    (snapshots : List Snapshot) (k : Nat) (names : List String) (w : ω) :
    Filling c zones snapshots k names (asked h (makeDisks c zones snapshots k names) w)
      (run h (makeDisks c zones snapshots k names) w).1 := by
  induction names generalizing k w with
  | nil => exact .finished k
  | cons n names ih =>
    -- What the look-up is answered decides which rule is followed.
    unfold makeDisks
    rw [bind_eq]
    cases hget : h.answer (.cloud c.group.account c.group.name (.getDisk n)) w with
    | mk found w₁ =>
      cases found with
      | ok d =>
        rw [asked_find?_of_ok hget, run_find?_of_ok hget]
        exact .found n d (ih k w₁)
      | error e =>
        cases he : e.isNotFound with
        | false =>
          rw [asked_find?_of_error he hget, run_find?_of_error he hget]
          exact .unknown n e k names he
        | true =>
          rw [asked_find?_of_missing he hget, run_find?_of_missing he hget]
          dsimp only
          cases hzone : zones[k % zones.length]? with
          | none => exact .stuck n e k names he hzone
          | some zone =>
            dsimp only
            unfold ResourceGroup.call
            rw [bind_eq]
            cases hput : h.answer
                (.cloud c.group.account c.group.name
                  (.putDisk n (newDisk c zone (contentFor snapshots n)))) w₁ with
            | mk put w₂ =>
              cases put with
              | error e' =>
                rw [asked_call_of_error hput, run_call_of_error hput]
                exact .refused n e e' k names zone he hzone
              | ok op =>
                rw [asked_call_of_ok hput, run_call_of_ok hput]
                exact .made n e zone op he hzone (ih (k + 1) w₂)

/-! ## The calls of a run -/

section Calls

variable {account : Account} {group n : String}

@[simp] theorem sought_get (found : Except AzureError Disk) :
    sought (⟨.cloud account group (.getDisk n), found⟩ :: trace) = n :: sought trace := rfl

@[simp] theorem sought_put (d : Disk) (put : Except AzureError Operation) :
    sought (⟨.cloud account group (.putDisk n d), put⟩ :: trace) = sought trace := rfl

@[simp] theorem made_get (found : Except AzureError Disk) :
    made (⟨.cloud account group (.getDisk n), found⟩ :: trace) = made trace := rfl

@[simp] theorem made_put (d : Disk) (put : Except AzureError Operation) :
    made (⟨.cloud account group (.putDisk n d), put⟩ :: trace) = (n, d) :: made trace := rfl

@[simp] theorem missed_put (d : Disk) (put : Except AzureError Operation) :
    missed (⟨.cloud account group (.putDisk n d), put⟩ :: trace) = missed trace := by
  cases put <;> rfl

theorem missedBy_of_missing {e : AzureError} (he : e.isNotFound = true) :
    missedBy ⟨.cloud account group (.getDisk n), .error e⟩ = some n := if_pos he

theorem missed_of_missing {e : AzureError} (he : e.isNotFound = true) :
    missed (⟨.cloud account group (.getDisk n), .error e⟩ :: trace) = n :: missed trace :=
  List.filterMap_cons_some (missedBy_of_missing he)

theorem missed_of_unknown {e : AzureError} (he : e.isNotFound = false) :
    missed (⟨.cloud account group (.getDisk n), .error e⟩ :: trace) = missed trace :=
  List.filterMap_cons_none (if_neg (by rw [he]; decide))

/-- What is answered is not fatal. -/
theorem not_fatal_of_ok {call : Call} {a : call.Answer} : ¬Fatal ⟨call, .ok a⟩ := by
  rintro ⟨hfailed, -⟩
  cases hfailed

/-- That a disk is missing is not fatal. -/
theorem not_fatal_of_missing {e : AzureError} (he : e.isNotFound = true) :
    ¬Fatal ⟨.cloud account group (.getDisk n), .error e⟩ := by
  rintro ⟨-, hmissed⟩
  rw [missedBy_of_missing he] at hmissed
  cases hmissed

/-- That it is not known whether a disk is missing is fatal. -/
theorem fatal_of_unknown {e : AzureError} (he : e.isNotFound = false) :
    Fatal ⟨.cloud account group (.getDisk n), .error e⟩ :=
  ⟨rfl, if_neg (by rw [he]; decide)⟩

/-- A call that is not fatal does not change how a run ends. -/
theorem Ending.cons {a : Asked} (h : Ending trace r) (ha : ¬Fatal a) : Ending (a :: trace) r := by
  cases h with
  | well htrace => exact .well (List.forall_mem_cons.2 ⟨ha, htrace⟩)
  | badly before hbefore hcall =>
    exact Ending.badly (a :: _) (List.forall_mem_cons.2 ⟨ha, hbefore⟩) hcall

end Calls

/-! ## What is made -/

theorem isSnapshotOf_iff {n : String} {s : Snapshot} : isSnapshotOf n s = true ↔ TakenFrom n s := by
  unfold isSnapshotOf isMemberSnapshot Snapshot.hasTag TakenFrom
  rw [Bool.and_eq_true, decide_eq_true_eq, decide_eq_true_eq]

/-- A new disk is as it is wanted. -/
theorem wanted_newDisk (c : AzureConfig) (zone : String) (snapshots : List Snapshot) (n : String) :
    Wanted c zone snapshots n (newDisk c zone (contentFor snapshots n)) where
  location := rfl
  tags := rfl
  zones := rfl
  size := rfl
  content := by
    show (∃ s, IsFirst (TakenFrom n) snapshots s ∧ contentFor snapshots n = ⟨.copy, s.id⟩) ∨
      ((∀ s ∈ snapshots, ¬TakenFrom n s) ∧ contentFor snapshots n = ⟨.empty, none⟩)
    unfold contentFor
    cases hfind : snapshots.find? (isSnapshotOf n) with
    | none =>
      refine Or.inr ⟨fun s hs htaken => ?_, rfl⟩
      exact List.find?_eq_none.1 hfind s hs (isSnapshotOf_iff.2 htaken)
    | some s => exact Or.inl ⟨s, isFirst_of_find? (fun _ => isSnapshotOf_iff) hfind, rfl⟩

/-- There is a next zone unless there is none at all. -/
theorem nextZone_eq_none : zones[k % zones.length]? = none ↔ zones = [] := by
  rw [List.getElem?_eq_none_iff, ← List.length_eq_zero_iff]
  have hmod := Nat.mod_lt k (y := zones.length)
  omega

namespace Filling

/-- Disks of the cluster are looked for and made. -/
theorem calls (h : Filling c zones snapshots k names trace r) :
    ∀ a ∈ trace, (∃ n, a.call = .cloud c.group.account c.group.name (.getDisk n)) ∨
      ∃ n d, a.call = .cloud c.group.account c.group.name (.putDisk n d) := by
  induction h with
  | finished k => exact fun a ha => nomatch ha
  | found n d h ih => exact List.forall_mem_cons.2 ⟨Or.inl ⟨n, rfl⟩, ih⟩
  | unknown n e k names he => exact List.forall_mem_singleton.2 (Or.inl ⟨n, rfl⟩)
  | stuck n e k names he hzone => exact List.forall_mem_singleton.2 (Or.inl ⟨n, rfl⟩)
  | refused n e e' k names zone he hzone =>
    exact List.forall_mem_cons.2 ⟨Or.inl ⟨n, rfl⟩, List.forall_mem_singleton.2 (Or.inr ⟨n, _, rfl⟩)⟩
  | made n e zone op he hzone h ih =>
    exact List.forall_mem_cons.2 ⟨Or.inl ⟨n, rfl⟩, List.forall_mem_cons.2 ⟨Or.inr ⟨n, _, rfl⟩, ih⟩⟩

/-- The disks are looked for one after the other, and all of them when the run ends well and there
are zones. -/
theorem sought_names (h : Filling c zones snapshots k names trace r) :
    sought trace <+: names ∧ (zones ≠ [] → r = .ok () → sought trace = names) := by
  induction h with
  | finished k => exact ⟨List.prefix_refl _, fun _ _ => rfl⟩
  | found n d h ih =>
    rw [sought_get]
    exact ⟨(List.prefix_cons_inj n).2 ih.1, fun hzones hr => congrArg (n :: ·) (ih.2 hzones hr)⟩
  | unknown n e k names he => exact ⟨⟨names, rfl⟩, fun _ hr => nomatch hr⟩
  | stuck n e k names he hzone =>
    exact ⟨⟨names, rfl⟩, fun hzones => absurd (nextZone_eq_none.1 hzone) hzones⟩
  | refused n e e' k names zone he hzone => exact ⟨⟨names, rfl⟩, fun _ hr => nomatch hr⟩
  | made n e zone op he hzone h ih =>
    rw [sought_get, sought_put]
    exact ⟨(List.prefix_cons_inj n).2 ih.1, fun hzones hr => congrArg (n :: ·) (ih.2 hzones hr)⟩

/-- The disks that were not found are made, in their order, when there are zones. -/
theorem made_names (h : Filling c zones snapshots k names trace r) :
    (zones ≠ [] → (Etcd.made trace).map Prod.fst = missed trace) ∧
    (zones = [] → Etcd.made trace = []) ∧
      ((Etcd.made trace).map Prod.fst).Sublist names := by
  induction h with
  | finished k => exact ⟨fun _ => rfl, fun _ => rfl, List.Sublist.slnil⟩
  | found n d h ih => exact ⟨ih.1, ih.2.1, ih.2.2.cons n⟩
  | unknown n e k names he =>
    rw [missed_of_unknown he]
    exact ⟨fun _ => rfl, fun _ => rfl, List.nil_sublist _⟩
  | stuck n e k names he hzone =>
    exact ⟨fun hzones => absurd (nextZone_eq_none.1 hzone) hzones, fun _ => rfl, List.nil_sublist _⟩
  | refused n e e' k names zone he hzone =>
    refine ⟨fun _ => ?_, fun hzones => ?_, (List.nil_sublist names).cons_cons n⟩
    · rw [missed_of_missing he]
      rfl
    · cases (nextZone_eq_none.2 hzones).symm.trans hzone
  | made n e zone op he hzone h ih =>
    rw [missed_of_missing he, missed_put, made_get, made_put, List.map_cons]
    refine ⟨fun hzones => congrArg (n :: ·) (ih.1 hzones), fun hzones => ?_, ih.2.2.cons_cons n⟩
    cases (nextZone_eq_none.2 hzones).symm.trans hzone

/-- The disks that are made are as they are wanted, in the zones by turns. -/
theorem wanted (h : Filling c zones snapshots k names trace r) :
    ∀ i n d, (Etcd.made trace)[i]? = some (n, d) →
    ∃ zone, zones[(k + i) % zones.length]? = some zone ∧ Wanted c zone snapshots n d := by
  induction h with
  | finished k => exact fun i n d hi => nomatch hi
  | found n d h ih => exact ih
  | unknown n e k names he => exact fun i n d hi => nomatch hi
  | stuck n e k names he hzone => exact fun i n d hi => nomatch hi
  | refused n e e' k names zone he hzone =>
    intro i n' d hi
    cases i with
    | zero =>
      cases hi
      exact ⟨zone, hzone, wanted_newDisk c zone snapshots n⟩
    | succ i => cases hi
  | made n e zone op he hzone h ih =>
    intro i n' d hi
    cases i with
    | zero =>
      cases hi
      exact ⟨zone, hzone, wanted_newDisk c zone snapshots n⟩
    | succ i =>
      obtain ⟨zone', hzone', hwanted⟩ := ih i n' d hi
      refine ⟨zone', ?_, hwanted⟩
      rw [← hzone', Nat.add_right_comm, Nat.add_assoc]

/-- The first call that fails, other than for a disk that is missing, is the last one. -/
theorem ending (h : Filling c zones snapshots k names trace r) : Ending trace r := by
  induction h with
  | finished k => exact .well fun a ha => nomatch ha
  | found n d h ih => exact ih.cons not_fatal_of_ok
  | unknown n e k names he => exact Ending.badly [] (fun a ha => nomatch ha) (fatal_of_unknown he)
  | stuck n e k names he hzone =>
    exact .well (List.forall_mem_singleton.2 (not_fatal_of_missing he))
  | refused n e e' k names zone he hzone =>
    exact (Ending.badly [] (fun a ha => nomatch ha) ⟨rfl, rfl⟩).cons (not_fatal_of_missing he)
  | made n e zone op he hzone h ih => exact (ih.cons not_fatal_of_ok).cons (not_fatal_of_missing he)

/-- What follows the rules fills the gaps. -/
theorem fills (h : Filling c zones snapshots k names trace r) :
    Fills c zones snapshots k names trace r where
  calls := h.calls
  sought := h.sought_names.1
  all := h.sought_names.2
  missed := h.made_names.1
  order := h.made_names.2.2
  noZone := h.made_names.2.1
  wanted := h.wanted
  ending := h.ending

end Filling

end TenantFleet.Etcd
