/-
# Disks that are dealt out

The disks of a fresh cluster are made in the zones of its masters, in the order that these are
listed in, and each master that has none takes the first free disk of its zone, in the order of the
names. The two orders are the same. So when the first masters have taken the first disks, the next
master finds the next disk before any other of its zone, and no disk has to be moved.

* `deal` : the masters with the disks of some names, one for each;
* `Dealt` : that there is a disk for each name, in the zone of its master, and that the first ones
  are taken;
* `Dealt.choose`, `Dealt.choose_nothing` : the disk that the next master takes;
* `Dealt.put`, `Dealt.take` : what making the next disk, and taking it, leaves.
-/
import Mathlib.Data.List.Sort
import TenantFleet.Proofs.Etcd.Aborted

namespace TenantFleet.Etcd

variable {c : AzureConfig} {subscription n scaleSet : String} {names first tail : List String}
  {masters before rest l : List Instance} {v : Instance} {k : Nat} {s s' : Subscription}

/-! ## The masters -/

/-- The masters with the disks of some names, one for each in the order of both. -/
def deal (c : AzureConfig) (subscription : String) : List String → List Instance → List Instance
  | n :: names, v :: rest =>
    v.attach diskUnit n (diskId subscription c.clusterId n) :: deal c subscription names rest
  | _, l => l

@[simp] theorem deal_nil (l : List Instance) : deal c subscription [] l = l := by
  cases l <;> rfl

/-- A master of those is one that was there, or one that was given a disk. -/
theorem mem_deal {u : Instance} (hu : u ∈ deal c subscription names l) :
    ∃ v ∈ l, u = v ∨ ∃ n ∈ names, u = v.attach diskUnit n (diskId subscription c.clusterId n) := by
  induction names generalizing l with
  | nil =>
    rw [deal_nil] at hu
    exact ⟨u, hu, Or.inl rfl⟩
  | cons n names ih =>
    cases l with
    | nil => cases hu
    | cons v rest =>
      rcases List.mem_cons.1 hu with rfl | hu
      · exact ⟨v, List.mem_cons_self, Or.inr ⟨n, List.mem_cons_self, rfl⟩⟩
      · obtain ⟨v', hv', h⟩ := ih hu
        refine ⟨v', List.mem_cons_of_mem _ hv', h.imp_right ?_⟩
        rintro ⟨m, hm, rfl⟩
        exact ⟨m, List.mem_cons_of_mem _ hm, rfl⟩

/-- What does not depend on the disks is the same for all masters. -/
theorem map_deal {β : Type} {view : Instance → β}
    (hview : ∀ v n, view (v.attach diskUnit n (diskId subscription c.clusterId n)) = view v)
    (names : List String)
    (l : List Instance) : (deal c subscription names l).map view = l.map view := by
  induction names generalizing l with
  | nil => rw [deal_nil]
  | cons n names ih =>
    cases l with
    | nil => rfl
    | cons v rest =>
      rw [deal, List.map_cons, List.map_cons, hview, ih]

/-- There are as many masters as before. -/
@[simp] theorem length_deal (names : List String) (l : List Instance) :
    (deal c subscription names l).length = l.length := by
  have hsame : (deal c subscription names l).map (fun _ => ()) = l.map fun _ => () :=
    map_deal (fun _ _ => rfl) names l
  rw [← List.length_map, hsame, List.length_map]

/-- Masters behind those that are given disks stay as they are. -/
theorem deal_append (h : names.length = before.length) :
    deal c subscription names (before ++ rest) = deal c subscription names before ++ rest := by
  induction names generalizing before with
  | nil =>
    cases List.length_eq_zero_iff.1 h.symm
    rw [List.nil_append, deal_nil, deal_nil, List.nil_append]
  | cons n names ih =>
    cases before with
    | nil => cases h
    | cons u before => exact congrArg _ (ih (Nat.succ.inj h))

/-- The next master is given the next disk. -/
theorem deal_snoc (h : first.length = before.length) :
    deal c subscription (first ++ [n]) (before ++ v :: rest) =
      deal c subscription first before ++ v.attach diskUnit n (diskId subscription c.clusterId n) ::
        rest := by
  induction first generalizing before with
  | nil =>
    cases List.length_eq_zero_iff.1 h.symm
    rw [List.nil_append, List.nil_append, deal, deal_nil, deal_nil]
    rfl
  | cons m first ih =>
    cases before with
    | nil => cases h
    | cons u before => exact congrArg _ (ih (Nat.succ.inj h))

/-- A master without a disk is no member. -/
theorem memberOf_of_bare (h : v.diskAt diskUnit = none) : memberOf v = "" := by
  unfold memberOf
  rw [h]
  rfl

/-- One that is given a disk is a member. -/
theorem memberOf_attach (h : v.diskAt diskUnit = none) (id : String) :
    memberOf (v.attach diskUnit n id) = n := by
  unfold Instance.diskAt at h
  unfold memberOf Instance.diskAt
  rw [Instance.dataDisks_attach, List.find?_append, h]
  rfl

/-- The members among masters that had no disks are the first ones. -/
theorem memberOf_deal (hbare : ∀ v ∈ l, v.diskAt diskUnit = none) (h : names.length ≤ l.length) :
    (deal c subscription names l).map memberOf = names ++ List.replicate
    (l.length - names.length) "" := by
  induction names generalizing l with
  | nil =>
    rw [deal_nil, List.nil_append, List.length_nil, Nat.sub_zero, List.map_congr_left fun v hv =>
      memberOf_of_bare (hbare v hv), List.map_const']
  | cons n names ih =>
    cases l with
    | nil => exact absurd h (Nat.not_succ_le_zero _)
    | cons v rest =>
      rw [deal, List.map_cons, memberOf_attach (hbare v List.mem_cons_self),
        ih (fun u hu => hbare u (List.mem_cons_of_mem _ hu)) (Nat.le_of_succ_le_succ h)]
      simp

/-- The first instance of an ID is the one behind those of other IDs. -/
theorem modifyFirst_append {inst : String} (f : Instance → Instance)
    (hbefore : ∀ u ∈ before, u.instanceId ≠ inst) (hv : v.instanceId = inst) :
    Subscription.modifyFirst inst f (before ++ v :: rest) = before ++ f v :: rest := by
  induction before with
  | nil =>
    rw [List.nil_append, Subscription.modifyFirst, if_pos hv]
    rfl
  | cons u before ih =>
    rw [List.cons_append, Subscription.modifyFirst, if_neg (hbefore u List.mem_cons_self),
      ih fun u' hu' => hbefore u' (List.mem_cons_of_mem _ hu')]
    rfl

/-! ## The disks -/

/-- The resource that a disk of a master is held by. -/
def holder (scaleSet : String) (v : Instance) : String :=
  v.id.getD (scaleSet ++ "/" ++ v.instanceId)

/-- Whether a disk is one of a member, ready, in the zone of a master, and held by someone or by
nobody. -/
structure Serves (d : Disk) (n : String) (v : Instance) (owner : Option String) : Prop where
  name : d.name = n
  member : isMemberDisk d = true
  ready : d.succeeded = true
  zone : d.zone = v.zone
  owner : d.managedBy = owner

/-- Whether there is a disk for each name, in the zone of the master of the same place, and no
other; the first ones are held by their masters, and the others are free. -/
structure Dealt (scaleSet : String) (masters : List Instance) (names : List String) (k : Nat)
    (s : Subscription) : Prop where
  disk : ∀ i n, names[i]? = some n → ∃ d v, s.disks.get? n = some d ∧ masters[i]? = some v ∧
    Serves d n v (if i < k then some (holder scaleSet v) else none)
  only : ∀ n d, s.disks.get? n = some d → n ∈ names

/-- The disks of the members are in the order of their names. -/
theorem sorted_disksOf (c : AzureConfig) : (disksOf c).Pairwise (· < ·) := by
  have hle : memberCount c.masterCount ≤ 3 := Nat.le_trans (memberCount_le _) (Nat.min_le_right _ _)
  unfold disksOf
  generalize memberCount c.masterCount = count at hle
  match count, hle with
  | 0, _ => exact .nil
  | 1, _ => decide +kernel
  | 2, _ => decide +kernel
  | 3, _ => decide +kernel

/-- Names in order are told by which names there are. -/
theorem eq_of_sorted {names' : List String} (h : names.Pairwise (· < ·))
    (h' : names'.Pairwise (· < ·)) (hmem : ∀ n, n ∈ names ↔ n ∈ names') : names = names' := by
  have hnodup : ∀ {l : List String}, l.Pairwise (· < ·) → l.Nodup := fun hl =>
    List.Pairwise.imp (S := (· ≠ ·)) (fun hlt heq => String.lt_irrefl _ (heq ▸ hlt)) hl
  exact List.Perm.eq_of_pairwise (fun _ _ _ _ hlt hgt => absurd hgt (String.lt_asymm hlt)) h h'
    ((List.perm_ext_iff_of_nodup (hnodup h) (hnodup h')).2 hmem)

namespace Dealt

/-- Disks stand under their names. -/
theorem named (h : Dealt scaleSet masters names k s) {d : Disk}
    (hd : s.disks.get? n = some d) : d.name = n := by
  obtain ⟨i, hi⟩ := List.mem_iff_getElem?.1 (h.only n d hd)
  obtain ⟨d', v, hd', -, hserves⟩ := h.disk i n hi
  cases hd.symm.trans hd'
  exact hserves.name

/-- The disks are listed in the order of the names. -/
theorem names_eq (h : Dealt scaleSet masters names k s) (hsorted : names.Pairwise (· < ·)) :
    s.disks.values.map Disk.name = names := by
  have hkeys : s.disks.values.map Disk.name = s.disks.entries.map Prod.fst := by
    unfold Dict.values
    rw [List.map_map]
    exact List.map_congr_left fun e he => h.named (Dict.mem_entries.1 he)
  rw [hkeys]
  refine eq_of_sorted (List.pairwise_map.2 s.disks.sorted) hsorted fun n => ?_
  constructor
  · intro hn
    obtain ⟨e, he, rfl⟩ := List.mem_map.1 hn
    exact h.only e.1 e.2 (Dict.mem_entries.1 he)
  · intro hn
    obtain ⟨i, hi⟩ := List.mem_iff_getElem?.1 hn
    obtain ⟨d, v, hd, -⟩ := h.disk i n hi
    exact List.mem_map.2 ⟨(n, d), Dict.mem_entries.2 hd, rfl⟩

/-- The disk at a place of the listing is that of the name at this place. -/
theorem listed (h : Dealt scaleSet masters names k s) (hsorted : names.Pairwise (· < ·))
    {i : Nat} {d : Disk}
    (hd : s.disks.values[i]? = some d) : ∃ n v, names[i]? = some n ∧ masters[i]? = some v ∧
      Serves d n v (if i < k then some (holder scaleSet v) else none) := by
  have hn : names[i]? = some d.name := by
    rw [← h.names_eq hsorted, List.getElem?_map, hd]
    rfl
  obtain ⟨key, hkey⟩ := Dict.mem_values.1 (List.mem_of_getElem? hd)
  obtain ⟨d', v, hd', hv, hserves⟩ := h.disk i _ hn
  rw [h.named hkey] at hd'
  cases hkey.symm.trans hd'
  exact ⟨d.name, v, hn, hv, hserves⟩

/-- All of them count. -/
theorem full (h : Dealt scaleSet masters (disksOf c) k s) : Full c s := by
  have hall : ∀ d ∈ s.disks.values, isMemberDisk d = true ∧ d.succeeded = true := by
    intro d hd
    obtain ⟨i, hi⟩ := List.mem_iff_getElem?.1 hd
    obtain ⟨n, v, -, -, hserves⟩ := h.listed (sorted_disksOf c) hi
    exact ⟨hserves.member, hserves.ready⟩
  unfold Full
  rw [List.filter_eq_self.2 fun d hd => (hall d hd).1, List.countP_eq_length.2 fun d hd =>
    (hall d hd).2, ← length_disksOf, ← h.names_eq (sorted_disksOf c), List.length_map]

/-- The next master takes the next disk. -/
theorem choose (h : Dealt scaleSet masters names k s) (hsorted : names.Pairwise (· < ·))
    {zone : String}
    (hn : names[k]? = some n) (hv : masters[k]? = some v) (hzone : v.zone = some zone) :
    ∃ d, chooseDisk zone s.disks.values = .use d ∧ d.name = n := by
  -- The disks before it are taken, and it is in the zone of the master.
  have hlength : k < s.disks.values.length := by
    rw [← List.length_map Disk.name, h.names_eq hsorted]
    exact (List.getElem?_eq_some_iff.1 hn).1
  obtain ⟨d, hd⟩ : ∃ d, s.disks.values[k]? = some d := ⟨_, List.getElem?_eq_getElem hlength⟩
  obtain ⟨n', v', hn', hv', hserves⟩ := h.listed hsorted hd
  cases hn.symm.trans hn'
  cases hv.symm.trans hv'
  rw [if_neg (Nat.lt_irrefl k)] at hserves
  have hsplit : s.disks.values = s.disks.values.take k ++ d :: s.disks.values.drop (k + 1) := by
    rw [← (List.getElem?_eq_some_iff.1 hd).2, ← List.drop_eq_getElem_cons hlength,
      List.take_append_drop]
  have htaken : (s.disks.values.take k).filter isFree = [] := by
    refine List.filter_eq_nil_iff.2 fun d' hd' => ?_
    obtain ⟨i, hi⟩ := List.mem_iff_getElem?.1 hd'
    rw [List.getElem?_take] at hi
    split at hi
    · rename_i hik
      obtain ⟨n', v', -, -, hheld⟩ := h.listed hsorted hi
      rw [if_pos hik] at hheld
      simp [isFree, Disk.attached, hheld.owner]
    · cases hi
  have hfree : isFree d = true := by
    simp [isFree, Disk.attached, hserves.owner, hserves.member, hserves.ready]
  have hfits : fits zone d = true := by simp [fits, hserves.zone, hzone]
  refine ⟨d, ?_, hserves.name⟩
  have hfound : (s.disks.values.filter isFree).find? (fits zone) = some d := by
    rw [hsplit, List.filter_append, htaken, List.nil_append, List.filter_cons_of_pos hfree,
      List.find?_cons_of_pos hfits]
  unfold chooseDisk
  dsimp only
  rw [hfound]

/-- When all disks are taken there is none for another master. -/
theorem choose_nothing (h : Dealt scaleSet masters names names.length s)
    (hsorted : names.Pairwise (· < ·))
    (zone : String) : chooseDisk zone s.disks.values = .nothing := by
  have hnone : s.disks.values.filter isFree = [] := by
    refine List.filter_eq_nil_iff.2 fun d hd => ?_
    obtain ⟨i, hi⟩ := List.mem_iff_getElem?.1 hd
    obtain ⟨n, v, hn, -, hserves⟩ := h.listed hsorted hi
    rw [if_pos (List.getElem?_eq_some_iff.1 hn).1] at hserves
    simp [isFree, Disk.attached, hserves.owner]
  unfold chooseDisk
  dsimp only
  rw [hnone]
  rfl

end Dealt

/-! ## Making and taking disks -/

/-- The disks after some were given a holder. -/
theorem get?_setOwner (owner : Option String) (names : List String) (disks : Dict Disk)
    (n : String) :
    (names.foldl (fun d name => d.modify name fun disk => { disk with managedBy := owner })
      disks).get? n =
      if n ∈ names then (disks.get? n).map fun disk => { disk with managedBy := owner }
        else disks.get? n := by
  induction names generalizing disks with
  | nil => rfl
  | cons name rest ih =>
    rw [List.foldl_cons, ih, Dict.get?_modify]
    by_cases hname : name = n
    · subst hname
      rw [if_pos rfl, if_pos List.mem_cons_self, Option.map_map]
      split <;> rfl
    · simp only [if_neg hname, List.mem_cons, Ne.symm hname, false_or]

/-- The disks after a master was given one: those that it names are held by it. -/
theorem get?_putInstance (s : Subscription) (scaleSet id m : String) :
    (s.putInstance scaleSet v.instanceId (v.attach diskUnit n id)).disks.get? m =
      if m ∈ (v.attach diskUnit n id).dataDisks.filterMap DataDisk.name then
        (s.disks.get? m).map fun d => { d with managedBy := some (holder scaleSet v) }
      else s.disks.get? m :=
  get?_setOwner _ _ s.disks m

/-- A master that lists no other disk of a name names only its own. -/
theorem mem_names_attach {m id : String} (huntangled : ∀ d ∈ v.dataDisks, d.name = some m → m = n) :
    m ∈ (v.attach diskUnit n id).dataDisks.filterMap DataDisk.name ↔ m = n := by
  rw [Instance.dataDisks_attach, List.filterMap_append, List.mem_append]
  constructor
  · rintro (hown | hnew)
    · obtain ⟨d, hd, hname⟩ := List.mem_filterMap.1 hown
      exact huntangled d hd hname
    · simpa using hnew
  · rintro rfl
    exact Or.inr (by simp)

namespace Dealt

/-- There are no disks at first. -/
theorem nil (hnone : s.disks = .empty) : Dealt scaleSet masters [] 0 s where
  disk i n hn := by cases hn
  only n d hd := by
    rw [hnone] at hd
    cases hd

/-- Other changes than to the disks leave them. -/
theorem congr (h : Dealt scaleSet masters names k s) (hsame : s'.disks = s.disks) :
    Dealt scaleSet masters names k s' where
  disk i n hn := by
    rw [hsame]
    exact h.disk i n hn
  only n d hd := by
    rw [hsame] at hd
    exact h.only n d hd

/-- The next disk is made in the zone of the next master. -/
theorem put (h : Dealt scaleSet masters first 0 s) (hn : n ∉ first)
    (hv : masters[first.length]? = some v)
    {zone : String} (hzone : v.zone = some zone) (hstate : s.newState = provisioningSucceeded)
    (content : CreationData) (group : String) :
    Dealt scaleSet masters (first ++ [n]) 0 (s.putDisk group n (newDisk c zone content)) where
  disk i m hm := by
    have hmissing : s.disks.get? n = none := by
      refine Option.eq_none_iff_forall_ne_some.2 fun d hd => hn (h.only n d hd)
    rw [List.getElem?_append] at hm
    split at hm
    · obtain ⟨d, u, hd, hu, hserves⟩ := h.disk i m hm
      have hne : n ≠ m := fun heq => hn (heq ▸ List.mem_of_getElem? hm)
      exact ⟨d, u, (get?_putDisk_of_ne hne).trans hd, hu, hserves⟩
    · rename_i hlast
      obtain ⟨hi, rfl⟩ := List.getElem?_eq_some_iff.1 hm
      have hi : i = first.length := by
        rw [List.length_singleton] at hi
        omega
      subst hi
      rw [List.getElem_singleton]
      refine ⟨_, v, get?_putDisk_of_none _ _ hmissing, hv, rfl, rfl, ?_, hzone.symm, rfl⟩
      exact decide_eq_true (congrArg some hstate)
  only m d hd := by
    by_cases heq : n = m
    · exact List.mem_append_right _ (List.mem_singleton.2 heq.symm)
    · rw [get?_putDisk_of_ne heq] at hd
      exact List.mem_append_left _ (h.only m d hd)

/-- The next master takes the next disk, unless it names others. -/
theorem take (h : Dealt scaleSet masters names k s) (hnodup : names.Nodup) (hn : names[k]? = some n)
    (hv : masters[k]? = some v) (huntangled : ∀ d ∈ v.dataDisks, ∀ m ∈ names,
      d.name = some m → m = n)
    (id : String) : Dealt scaleSet masters names (k + 1)
      (s.putInstance scaleSet v.instanceId (v.attach diskUnit n id)) where
  disk i m hm := by
    obtain ⟨d, u, hd, hu, hserves⟩ := h.disk i m hm
    have hnames : m ∈ (v.attach diskUnit n id).dataDisks.filterMap DataDisk.name ↔ m = n :=
      mem_names_attach fun d hd => huntangled d hd m (List.mem_of_getElem? hm)
    rw [get?_putInstance]
    by_cases hik : i = k
    · subst hik
      cases hn.symm.trans hm
      cases hv.symm.trans hu
      rw [if_pos (hnames.2 rfl), hd]
      exact ⟨_, v, rfl, hv, hserves.name, hserves.member, hserves.ready, hserves.zone,
        (if_pos (Nat.lt_succ_self i)).symm⟩
    · have hne : m ≠ n := by
        rintro rfl
        exact hik ((List.getElem?_inj (List.getElem?_eq_some_iff.1 hm).1 hnodup).1
          (hm.trans hn.symm))
      rw [if_neg fun hmem => hne (hnames.1 hmem)]
      refine ⟨d, u, hd, hu, ?_⟩
      have hlt : i < k + 1 ↔ i < k := by omega
      simpa only [hlt] using hserves
  only m d hd := by
    rw [get?_putInstance] at hd
    split at hd
    · obtain ⟨d', hd', -⟩ := Option.map_eq_some_iff.1 hd
      exact h.only m d' hd'
    · exact h.only m d hd

end Dealt

end TenantFleet.Etcd
