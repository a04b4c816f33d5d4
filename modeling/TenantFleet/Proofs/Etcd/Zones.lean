/-
# Zones for new disks

New disks are made in the zones that are left when the zone of every member's disk is taken from
those of the masters, once each. When there are enough masters, and each disk that is there has a
master of its own in its zone, then as many zones are left as disks are missing, so no zone is used
twice, and in the end each disk has a master of its own.

* `Placed` : which disks a run makes, and in which zones;
* `Attachable` : that each member's disk has, or can get, a master of its own in its zone;
* `attachable_after_verify` : a pass without failures that makes disks leaves all of them so.
-/
import Mathlib.Data.Multiset.AddSub
import TenantFleet.Proofs.Etcd.Refilling
import TenantFleet.Proofs.Etcd.Convergence
import TenantFleet.Proofs.Etcd.Difference
import TenantFleet.Proofs.World.Refusal

namespace TenantFleet.Etcd

open Program

/-! ## Lists without order -/

section Pairing

variable {α β γ : Type} {f : α → γ} {g : β → γ} {l : List α} {m : List β}

/-- When each image of a list is an image of another one, with the same multiplicity, the members
can be paired. -/
theorem exists_forall₂_of_subperm (h : (l.map f).Subperm (m.map g)) :
    ∃ own : List β, own.Subperm m ∧ List.Forall₂ (fun a b => f a = g b) l own := by
  obtain ⟨images, hperm, hsub⟩ := h
  obtain ⟨chosen, hchosen, rfl⟩ := List.sublist_map_iff.1 hsub
  have hcomp : Relation.Comp (· = List.map g ·) List.Perm (l.map f) chosen := by
    rw [List.eq_map_comp_perm]
    exact hperm.symm
  obtain ⟨own, heq, hown⟩ := hcomp
  refine ⟨own, hown.subperm.trans hchosen.subperm, ?_⟩
  have hsame : List.Forall₂ (· = ·) (l.map f) (own.map g) := by
    rw [List.forall₂_eq_eq_eq]
    exact heq
  rwa [List.forall₂_map_left_iff, List.forall₂_map_right_iff] at hsame

/-- A list that loses no member. -/
theorem map_some_filterMap {f : α → Option β} (h : ∀ a ∈ l, f a ≠ none) :
    (l.filterMap f).map some = l.map f := by
  induction l with
  | nil => rfl
  | cons a rest ih =>
    obtain ⟨ha, hrest⟩ := List.forall_mem_cons.1 h
    obtain ⟨b, hb⟩ := Option.ne_none_iff_exists'.1 ha
    rw [List.filterMap_cons_some hb, List.map_cons, List.map_cons, ih hrest, hb]

/-- It keeps its length. -/
theorem length_filterMap_of_ne_none {f : α → Option β} (h : ∀ a ∈ l, f a ≠ none) :
    (l.filterMap f).length = l.length := by
  rw [← List.length_map (f := some), map_some_filterMap h, List.length_map]

end Pairing

/-! ## Disks and masters by zone -/

variable {c : AzureConfig} {version : String} {w w' : World} {s s' s'' : Subscription} {n : String}
  {zones names : List String} {k : Nat}

/-- The zone of the disk of a name. -/
def zoneIn (s : Subscription) (n : String) : Option String := (s.disks.get? n).bind Disk.zone

/-- The zones of the members' disks. -/
def diskZones (c : AzureConfig) (s : Subscription) : List String := (disksOf c).filterMap (zoneIn s)

/-- The masters of a version. -/
def taggedMasters (c : AzureConfig) (version : String) (s : Subscription) : List Instance :=
  currentMasters version (mastersIn c s)

/-- The zones of the masters of a version. -/
def masterZones (c : AzureConfig) (version : String) (s : Subscription) : List String :=
  (taggedMasters c version s).filterMap Instance.zone

/-- The names that have no disk. -/
def missingIn (s : Subscription) (names : List String) : List String :=
  names.filter fun n => (s.disks.get? n).isNone

/-- Whether the disks of the members, and no others, have their role and a zone, and each of them
can get a master of its own in its zone, there being enough masters of the version, all of them in a
zone. -/
structure Attachable (c : AzureConfig) (version : String) (s : Subscription) : Prop where
  disks : ∀ n ∈ disksOf c, ∀ d, s.disks.get? n = some d → isMemberDisk d = true ∧ d.zone ≠ none
  others : ∀ n d, s.disks.get? n = some d → isMemberDisk d = true → n ∈ disksOf c
  masters : ∀ v ∈ taggedMasters c version s, v.zone ≠ none
  enough : memberCount c.masterCount ≤ (taggedMasters c version s).length
  fits : (diskZones c s : Multiset String) ≤ masterZones c version s

/-- The masters of a version are found among the instances, and so are their zones. -/
theorem masters_congr (hinstances : s'.instances = s.instances) :
    taggedMasters c version s' = taggedMasters c version s ∧
    masterZones c version s' = masterZones c version s := by
  have hmasters : taggedMasters c version s' = taggedMasters c version s := by
    unfold taggedMasters mastersIn Subscription.instancesOf
    rw [hinstances]
  refine ⟨hmasters, ?_⟩
  unfold masterZones
  rw [hmasters]

/-- Which disks can get a master is decided by the disks and the instances. -/
theorem Attachable.congr (h : Attachable c version s) (hdisks : s'.disks = s.disks)
    (hinstances : s'.instances = s.instances) : Attachable c version s' := by
  obtain ⟨hmasters, hzones⟩ := masters_congr hinstances
  have hlookup : zoneIn s' = zoneIn s := by
    unfold zoneIn
    rw [hdisks]
  refine ⟨?_, ?_, ?_, ?_, ?_⟩
  · rw [hdisks]
    exact h.disks
  · rw [hdisks]
    exact h.others
  · rw [hmasters]
    exact h.masters
  · rw [hmasters]
    exact h.enough
  · unfold diskZones
    rw [hzones, hlookup]
    exact h.fits

/-- A name has a disk, and that disk has a zone. -/
theorem zoneIn_ne_none {d : Disk} (hd : s.disks.get? n = some d) (hzone : d.zone ≠ none) :
    zoneIn s n ≠ none := by
  unfold zoneIn
  rw [hd]
  exact hzone

/-- There is no zone of a disk that is missing. -/
theorem zoneIn_of_missing (h : s.disks.get? n = none) : zoneIn s n = none := by
  unfold zoneIn
  rw [h]
  rfl

theorem missingIn_cons_of_some {d : Disk} (h : s.disks.get? n = some d) :
    missingIn s (n :: names) = missingIn s names :=
  List.filter_cons_of_neg (by rw [h]; exact Bool.false_ne_true)

theorem missingIn_cons_of_none (h : s.disks.get? n = none) :
    missingIn s (n :: names) = n :: missingIn s names :=
  List.filter_cons_of_pos (by rw [h]; rfl)

/-- What is missing among some names is decided by the look-ups of these. -/
theorem missingIn_congr (h : ∀ n ∈ names, s'.disks.get? n = s.disks.get? n) :
    missingIn s' names = missingIn s names :=
  List.filter_congr fun n hn => by rw [h n hn]

theorem zones_congr (h : ∀ n ∈ names, s'.disks.get? n = s.disks.get? n) :
    names.filterMap (zoneIn s') = names.filterMap (zoneIn s) :=
  List.filterMap_congr fun n hn => congrArg (Option.bind · Disk.zone) (h n hn)

/-- A disk that is made is found under its own name only. -/
theorem get?_putDisk_of_not_mem (s : Subscription) (group : String) (value : Disk)
    (hn : n ∉ names) :
    ∀ m ∈ names, (s.putDisk group n value).disks.get? m = s.disks.get? m := by
  intro m hm
  refine get?_putDisk_of_ne ?_
  rintro rfl
  exact hn hm

/-- Names with a disk in a zone and names without a disk are all names. -/
theorem length_zones_add_missing (h : ∀ n ∈ names, ∀ d, s.disks.get? n = some d → d.zone ≠ none) :
    (names.filterMap (zoneIn s)).length + (missingIn s names).length = names.length := by
  induction names with
  | nil => rfl
  | cons n rest ih =>
    obtain ⟨hn, hrest⟩ := List.forall_mem_cons.1 h
    have hsum := ih hrest
    cases hd : s.disks.get? n with
    | none =>
      rw [List.filterMap_cons_none (zoneIn_of_missing hd), missingIn_cons_of_none hd,
        List.length_cons, List.length_cons]
      omega
    | some d =>
      obtain ⟨zone, hzone⟩ := Option.ne_none_iff_exists'.1 (zoneIn_ne_none hd (hn d hd))
      rw [List.filterMap_cons_some hzone, missingIn_cons_of_some hd, List.length_cons,
        List.length_cons]
      omega

/-! ## Which zones are left -/

namespace Attachable

/-- The disks with the role are the members' disks that are there. -/
theorem roleZones_perm (h : Attachable c version s) :
    ((s.disks.values.filter isMemberDisk).filterMap Disk.zone).Perm (diskZones c s) := by
  -- Both lists are read off lists of entries without repetition that have the same members.
  have hentries : (s.disks.entries.filter fun e => isMemberDisk e.2).Perm
      ((disksOf c).filterMap fun n => (s.disks.get? n).map (Prod.mk n)) := by
    refine (List.perm_ext_iff_of_nodup ?_ ?_).2 ?_
    · refine List.Nodup.filter _ (s.disks.sorted.imp fun hlt heq => ?_)
      subst heq
      exact String.lt_irrefl _ hlt
    · refine (nodup_disksOf c).filterMap fun n m e hn hm => ?_
      obtain ⟨d, -, rfl⟩ := Option.map_eq_some_iff.1 hn
      obtain ⟨d', -, heq⟩ := Option.map_eq_some_iff.1 hm
      exact (congrArg Prod.fst heq).symm
    · rintro ⟨n, d⟩
      rw [List.mem_filter, List.mem_filterMap, Dict.mem_entries]
      constructor
      · rintro ⟨hd, hmember⟩
        exact ⟨n, h.others n d hd hmember, by rw [hd]; rfl⟩
      · rintro ⟨m, hm, hentry⟩
        obtain ⟨d', hd, heq⟩ := Option.map_eq_some_iff.1 hentry
        cases heq
        exact ⟨hd, (h.disks n hm d hd).1⟩
  have hvalues : (s.disks.values.filter isMemberDisk).filterMap Disk.zone =
      (s.disks.entries.filter fun e => isMemberDisk e.2).filterMap fun e => e.2.zone := by
    unfold Dict.values
    rw [List.filter_map, List.filterMap_map]
    rfl
  have hnames : ((disksOf c).filterMap fun n => (s.disks.get? n).map (Prod.mk n)).filterMap
      (fun e => e.2.zone) = diskZones c s := by
    rw [List.filterMap_filterMap]
    refine List.filterMap_congr fun n _ => ?_
    unfold zoneIn
    cases s.disks.get? n <;> rfl
  rw [hvalues, ← hnames]
  exact hentries.filterMap _

/-- The zones that are left are those of the masters without those of the members' disks. -/
theorem zonesLeft_eq (h : Attachable c version s) :
    (zonesLeft c version s : Multiset String) = masterZones c version s - diskZones c s := by
  unfold zonesLeft
  rw [difference_eq_diff, ← Multiset.coe_sub, Multiset.coe_eq_coe.2 h.roleZones_perm]
  rfl

/-- At least as many zones are left as disks are missing. -/
theorem length_missingIn_le (h : Attachable c version s) :
    (missingIn s (disksOf c)).length ≤ (zonesLeft c version s).length := by
  have hleft :
      (zonesLeft c version s).length =
      (masterZones c version s).length - (diskZones c s).length := by
    have hcard := Multiset.card_sub h.fits
    rwa [← h.zonesLeft_eq] at hcard
  have hmasters : (masterZones c version s).length = (taggedMasters c version s).length :=
    length_filterMap_of_ne_none h.masters
  have hdisks : (diskZones c s).length + (missingIn s (disksOf c)).length = (disksOf c).length :=
    length_zones_add_missing fun n hn d hd => (h.disks n hn d hd).2
  have henough := h.enough
  rw [length_disksOf] at hdisks
  omega

end Attachable

/-! ## Which disks are made -/

/-- What is left of the disks when the missing ones among some names were made, each in the next
zone behind the first `k`. -/
structure Placed (zones : List String) (k : Nat) (names : List String)
    (s s' : Subscription) : Prop where
  instances : s'.instances = s.instances
  kept : ∀ n d, s.disks.get? n = some d → s'.disks.get? n = some d
  others : ∀ n, n ∉ names → s'.disks.get? n = s.disks.get? n
  made : ∀ n ∈ names, s.disks.get? n = none →
    ∃ d, s'.disks.get? n = some d ∧ isMemberDisk d = true ∧ ∃ zone ∈ zones, d.zones = [zone]
  zones : (names.filterMap (zoneIn s')).Perm
    (names.filterMap (zoneIn s) ++ (zones.drop k).take (missingIn s names).length)

namespace Placed

/-- Nothing is made of no names. -/
theorem nil (s : Subscription) : Placed zones k [] s s where
  instances := rfl
  kept _ _ hd := hd
  others _ _ := rfl
  made _ hn := absurd hn List.not_mem_nil
  zones := by
    show ([] : List String).Perm ([] ++ (zones.drop k).take 0)
    rw [List.take_zero]
    exact .refl _

/-- A disk that is there is left. -/
theorem found {d : Disk} (hd : s.disks.get? n = some d) (h : Placed zones k names s s') :
    Placed zones k (n :: names) s s' where
  instances := h.instances
  kept := h.kept
  others m hm := h.others m fun hmem => hm (List.mem_cons_of_mem n hmem)
  made m hm hmissing := by
    rcases List.mem_cons.1 hm with rfl | hm
    · cases hmissing.symm.trans hd
    · exact h.made m hm hmissing
  zones := by
    have hsame : zoneIn s' n = zoneIn s n := by
      unfold zoneIn
      rw [hd, h.kept n d hd]
    rw [missingIn_cons_of_some hd]
    cases hzone : zoneIn s n with
    | none =>
      rw [List.filterMap_cons_none (hsame.trans hzone), List.filterMap_cons_none hzone]
      exact h.zones
    | some zone =>
      rw [List.filterMap_cons_some (hsame.trans hzone), List.filterMap_cons_some hzone]
      exact h.zones.cons zone

/-- A disk that is missing is made in the next zone. -/
theorem put {group zone : String} {value : Disk} (hmissing : s.disks.get? n = none) (hn : n ∉ names)
    (hzone : zones[k]? = some zone) (hmember : isMemberDisk value = true)
    (hvalue : value.zones = [zone])
    (h : Placed zones (k + 1) names (s.putDisk group n value) s') :
    Placed zones k (n :: names) s s' := by
  have hothers : ∀ m, n ≠ m → (s.putDisk group n value).disks.get? m = s.disks.get? m :=
    fun m hne => get?_putDisk_of_ne hne
  have hnames := get?_putDisk_of_not_mem s group value hn
  have hput := h.kept n _ (get?_putDisk_of_none group value hmissing)
  refine ⟨h.instances, fun m d hd => ?_, fun m hm => ?_, fun m hm hmissing' => ?_, ?_⟩
  · have hne : n ≠ m := by
      rintro rfl
      cases hmissing.symm.trans hd
    exact h.kept m d ((hothers m hne).trans hd)
  · obtain ⟨hne, hm⟩ := not_or.1 fun hor => hm (List.mem_cons.2 hor)
    exact (h.others m hm).trans (hothers m (Ne.symm hne))
  · rcases List.mem_cons.1 hm with rfl | hm
    · exact ⟨_, hput, hmember, zone, List.mem_of_getElem? hzone, hvalue⟩
    · exact h.made m hm ((hnames m hm).trans hmissing')
  · have hhead : zoneIn s' n = some zone := by
      unfold zoneIn
      rw [hput]
      exact congrArg List.head? hvalue
    have hnext : zones.drop k = zone :: zones.drop (k + 1) := by
      obtain ⟨hlt, rfl⟩ := List.getElem?_eq_some_iff.1 hzone
      exact List.drop_eq_getElem_cons hlt
    have hrest := h.zones
    rw [missingIn_congr hnames, zones_congr hnames] at hrest
    rw [List.filterMap_cons_some hhead, List.filterMap_cons_none (zoneIn_of_missing hmissing),
      missingIn_cons_of_none hmissing, hnext, List.length_cons, List.take_succ_cons]
    exact (hrest.cons zone).trans List.perm_middle.symm

end Placed

/-! ## Runs without failures -/

section Requests

variable {q : CloudCall} {P : Call → Prop}

/-- A request does what it says. -/
theorem plain_request {a : q.Answer} (hP : P (.cloud c.group.account c.group.name q))
    (ha : w.cluster.perform c.group.name q = (.ok a, s)) :
    Succeeds World.plain P (fun a' w' => a' = a ∧ w'.cluster = s) (c.group.call q) w := by
  have hanswer : World.plain.answer (.cloud c.group.account c.group.name q) w =
      (.ok a, { w with cluster := s }) :=
    congrArg (fun x : Except AzureError q.Answer × Subscription =>
      (x.1, { w with cluster := x.2 })) ha
  exact Succeeds.call hP (congrArg Prod.fst hanswer) ⟨rfl, congrArg (fun x => x.2.cluster) hanswer⟩

/-- A resource is found when it is there, and stays as it is. -/
theorem plain_find? (found : Option q.Answer) (what : String)
    (hP : P (.cloud c.group.account c.group.name q))
    (ha : w.cluster.perform c.group.name q = (Subscription.orMissing found what, w.cluster)) :
    Succeeds World.plain P (fun a w' => a = found ∧ w' = w) (c.group.find? q) w := by
  have hanswer : World.plain.answer (.cloud c.group.account c.group.name q) w =
      (Subscription.orMissing found what, w) :=
    congrArg (fun x : Except AzureError q.Answer × Subscription =>
      (x.1, { w with cluster := x.2 })) ha
  refine Succeeds.find? hP ?_ ⟨rfl, congrArg Prod.snd hanswer⟩
  have hresult := congrArg Prod.fst hanswer
  cases found with
  | some a => exact hresult
  | none => exact ⟨_, rfl, hresult⟩

/-- Counting the certificates leaves the cloud as it is. -/
theorem plain_countCerts (hrequest : ∀ config, P (.ensureCertConfig config))
    (hbundle : ∀ cert, P (.findBundle c.clusterId cert)) (certs : List EtcdCert) (w : World) :
    Succeeds World.plain P (fun _ w' => w'.cluster = w.cluster) (countCerts c certs) w := by
  induction certs generalizing w with
  | nil => rfl
  | cons cert rest ih =>
    refine (Succeeds.call (Q := fun _ w' => w'.cluster = w.cluster) (hrequest _) rfl
      (w.cluster_perform (by rintro _ _ _ ⟨⟩))).andThen fun _ w₁ h₁ => ?_
    refine (Succeeds.attempt (Q := fun _ w' => w'.cluster = w₁.cluster) (hbundle cert)
      (w₁.cluster_perform (by rintro _ _ _ ⟨⟩))).andThen fun _ w₂ h₂ => ?_
    exact (ih w₂).andThen fun _ w₃ h₃ => h₃.trans (h₂.trans h₁)

end Requests

/-- As long as there are zones for all of them, the missing disks are made in one zone after the
other. -/
theorem plain_makeDisks (snapshots : List Snapshot) (hnodup : names.Nodup)
    (hroom : k + (missingIn w.cluster names).length ≤ zones.length) :
    Succeeds World.plain (fun _ => True) (fun _ w' => Placed zones k names w.cluster w'.cluster)
      (makeDisks c zones snapshots k names) w := by
  induction names generalizing k w with
  | nil => exact .nil w.cluster
  | cons n rest ih =>
    obtain ⟨hn, hrest⟩ := List.nodup_cons.1 hnodup
    rw [makeDisks]
    refine (plain_find? (q := .getDisk n) (w.cluster.disks.get? n) ("disk " ++ n) trivial
      rfl).andThen ?_
    rintro _ w ⟨rfl, rfl⟩
    cases hd : w.cluster.disks.get? n with
    | some d =>
      rw [missingIn_cons_of_some hd] at hroom
      exact (ih hrest hroom).mono (fun _ h => h) fun _ _ hplaced => hplaced.found hd
    | none =>
      rw [missingIn_cons_of_none hd, List.length_cons] at hroom
      have hlt : k < zones.length := by omega
      have hzone : zones[k]? = some zones[k] := List.getElem?_eq_getElem hlt
      dsimp only
      rw [Nat.mod_eq_of_lt hlt, hzone]
      dsimp only
      refine (plain_request (q := .putDisk n (newDisk c zones[k] (contentFor snapshots n))) trivial
        rfl).andThen ?_
      rintro _ w₁ ⟨-, h₁⟩
      have hroom' : k + 1 + (missingIn (w.cluster.putDisk c.group.name n
          (newDisk c zones[k] (contentFor snapshots n))) rest).length ≤ zones.length := by
        rw [missingIn_congr (get?_putDisk_of_not_mem _ _ _ hn)]
        omega
      rw [← h₁] at hroom'
      refine (ih hrest hroom').mono (fun _ h => h) fun _ _ hplaced => ?_
      rw [h₁] at hplaced
      exact hplaced.put hd hn hzone rfl rfl

/-- The missing disks of the members are made. -/
theorem plain_ensureDisks (hroom : (missingIn w.cluster (disksOf c)).length ≤ zones.length) :
    Succeeds World.plain (fun _ => True)
      (fun _ w' => Placed zones 0 (disksOf c) w.cluster w'.cluster)
      (ensureDisks c (memberCount c.masterCount) zones) w := by
  refine (plain_request (q := .listSnapshots) trivial rfl).andThen ?_
  rintro snapshots w₁ ⟨-, h₁⟩
  rw [← h₁] at hroom ⊢
  exact plain_makeDisks snapshots (nodup_disksOf c) (by rw [Nat.zero_add]; exact hroom)

/-- Whether masters or disks are missing where the scale set is of the version. -/
def Lacking (c : AzureConfig) (version : String) (s : Subscription) : Prop :=
  (∃ m, s.scaleSets.get? (Name.masterScaleSet c.clusterId) = some m ∧ hasVersion version m = true) ∧
    ¬((taggedMasters c version s).countP Instance.succeeded = c.masterCount ∧
      (s.disks.values.filter isMemberDisk).countP Disk.succeeded = memberCount c.masterCount)

/-- Whether a call lists the snapshots only where something is missing. -/
def ListsIfLacking (c : AzureConfig) (version : String) (s : Subscription) (call : Call) : Prop :=
  call = .cloud c.group.account c.group.name .listSnapshots → Lacking c version s

/-- Snapshots are listed only where something is missing, and then the missing disks are made. -/
theorem plain_verifyPrerequisites (hw : Attachable c version w.cluster) :
    Succeeds World.plain (ListsIfLacking c version w.cluster)
      (fun ready w' => Lacking c version w.cluster → ready = false ∧
        Placed (zonesLeft c version w.cluster) 0 (disksOf c) w.cluster w'.cluster)
      (verifyPrerequisites c version) w := by
  unfold verifyPrerequisites
  refine (plain_countCerts (by rintro _ ⟨⟩) (by rintro _ ⟨⟩) _ w).andThen fun certs w₁ hcloud => ?_
  refine (plain_find? (q := .getScaleSet (Name.masterScaleSet c.clusterId))
    (w₁.cluster.scaleSets.get? (Name.masterScaleSet c.clusterId)) _ (by rintro ⟨⟩) rfl).andThen ?_
  rintro _ w₁ ⟨rfl, rfl⟩
  rw [hcloud]
  cases hscaleSet : w.cluster.scaleSets.get? (Name.masterScaleSet c.clusterId) with
  | none =>
    rintro ⟨⟨m, hm, -⟩, -⟩
    cases hscaleSet.symm.trans hm
  | some scaleSet =>
    dsimp only
    by_cases hversion : hasVersion version scaleSet = true
    · rw [if_pos hversion]
      have hlisted :
          w₁.cluster.perform c.group.name (.listInstances (Name.masterScaleSet c.clusterId)) =
          (.ok (mastersIn c w.cluster), w₁.cluster) := by
        show (Subscription.orMissing
            ((w₁.cluster.scaleSets.get? (Name.masterScaleSet c.clusterId)).map
          fun _ => mastersIn c w₁.cluster) _, w₁.cluster) = _
        rw [hcloud, hscaleSet]
        rfl
      refine (plain_request (q := .listInstances (Name.masterScaleSet c.clusterId)) (by rintro ⟨⟩)
        hlisted).andThen ?_
      rintro _ w₂ ⟨rfl, h₂⟩
      refine (plain_request (q := .listDisks) (by rintro ⟨⟩) rfl).andThen ?_
      rintro _ w₃ ⟨rfl, h₃⟩
      rw [h₂, hcloud] at h₃ ⊢
      by_cases hcounts : (taggedMasters c version w.cluster).countP Instance.succeeded =
        c.masterCount ∧
          (w.cluster.disks.values.filter isMemberDisk).countP Disk.succeeded =
          memberCount c.masterCount
      · refine (congrArg (Succeeds World.plain _ _ · w₃) (if_pos hcounts)).mpr ?_
        exact fun hlacking => absurd hcounts hlacking.2
      · refine (congrArg (Succeeds World.plain _ _ · w₃) (if_neg hcounts)).mpr ?_
        have hlacking : Lacking c version w.cluster := ⟨⟨scaleSet, hscaleSet, hversion⟩, hcounts⟩
        have hroom := hw.length_missingIn_le
        rw [← h₃] at hroom
        have hmade : Succeeds World.plain (ListsIfLacking c version w.cluster) _ _ w₃ :=
          (plain_ensureDisks hroom).mono (fun _ _ _ => hlacking) fun _ _ h => h
        rw [h₃] at hmade
        exact hmade.andThen fun _ w₄ hplaced _ => ⟨rfl, hplaced⟩
    · rw [if_neg hversion]
      rintro ⟨⟨m, hm, hversion'⟩, -⟩
      cases hscaleSet.symm.trans hm
      exact absurd hversion' hversion

/-! ## All disks have a master in their zone -/

/-- Masters of the version, one for each member's disk and in its zone. -/
def OwnMasters (c : AzureConfig) (version : String) (s : Subscription)
    (own : List Instance) : Prop :=
  own.Subperm (taggedMasters c version s) ∧
  List.Forall₂ (fun n v => zoneIn s n = v.zone) (disksOf c) own

/-- When all members' disks are there, each has a master of its own. -/
theorem Attachable.exists_ownMasters (h : Attachable c version s)
    (hthere : ∀ n ∈ disksOf c, s.disks.get? n ≠ none) : ∃ own, OwnMasters c version s own := by
  refine exists_forall₂_of_subperm ?_
  have hzones : ∀ n ∈ disksOf c, zoneIn s n ≠ none := by
    intro n hn
    obtain ⟨d, hd⟩ := Option.ne_none_iff_exists'.1 (hthere n hn)
    exact zoneIn_ne_none hd (h.disks n hn d hd).2
  rw [← map_some_filterMap hzones, ← map_some_filterMap h.masters]
  exact (Multiset.coe_le.1 h.fits).map (Option.some_injective _)

/-- Making the missing disks in the zones that are left keeps all disks attachable. -/
theorem Attachable.placed (h : Attachable c version s)
    (hplaced : Placed (zonesLeft c version s) 0 (disksOf c) s s') : Attachable c version s' := by
  obtain ⟨hmasters, hzones⟩ := masters_congr hplaced.instances
  refine ⟨fun n hn d hd => ?_, fun n d hd hmember => ?_, ?_, ?_, ?_⟩
  · cases hmissing : s.disks.get? n with
    | some d' =>
      obtain rfl := Option.some.inj ((hplaced.kept n d' hmissing).symm.trans hd)
      exact h.disks n hn d' hmissing
    | none =>
      obtain ⟨d', hd', hmember, zone, -, hzone⟩ := hplaced.made n hn hmissing
      obtain rfl := Option.some.inj (hd'.symm.trans hd)
      refine ⟨hmember, ?_⟩
      unfold Disk.zone
      rw [hzone]
      exact Option.some_ne_none zone
  · by_cases hn : n ∈ disksOf c
    · exact hn
    · exact h.others n d ((hplaced.others n hn).symm.trans hd) hmember
  · rw [hmasters]
    exact h.masters
  · rw [hmasters]
    exact h.enough
  · rw [hzones]
    calc (diskZones c s' : Multiset String)
        = diskZones c s + ((zonesLeft c version s).take (missingIn s (disksOf c)).length :
          List String) :=
          Multiset.coe_eq_coe.2 hplaced.zones
      _ ≤ diskZones c s + zonesLeft c version s :=
          Multiset.add_le_add_iff_left.2 (Multiset.coe_le.2 (List.take_sublist _ _).subperm)
      _ = diskZones c s + (masterZones c version s - diskZones c s) := by rw [h.zonesLeft_eq]
      _ = masterZones c version s := by rw [Multiset.add_comm, Multiset.sub_add_cancel h.fits]

/-- **The zones of new disks.** When the members' disks, and no others, have their role and a zone,
each of them can get a master of its own in its zone, and there are enough masters of the version,
all in a zone, then after a pass that lists the snapshots to make disks, and in which no call was
asked to fail, all members have disks, each of them with a master of its own in its zone; the
masters and the disks that were there are as they were. -/
theorem attachable_after_verify (c : AzureConfig) (version : String) (w : World)
    (hw : Attachable c version w.cluster)
    (hfree : ∀ call ∈ calls World.handler (verifyPrerequisites c version) w, ¬w.Refuses call)
    (hreach : .cloud c.group.account c.group.name .listSnapshots ∈
      calls World.handler (verifyPrerequisites c version) w) :
    ∃ w', run World.handler (verifyPrerequisites c version) w = (.ok false, w') ∧
      (∀ n ∈ disksOf c, ∃ d, w'.cluster.disks.get? n = some d) ∧
      Attachable c version w'.cluster ∧ (∃ own, OwnMasters c version w'.cluster own) ∧
      mastersIn c w'.cluster = mastersIn c w.cluster ∧
      ∀ n d, w.cluster.disks.get? n = some d → w'.cluster.disks.get? n = some d := by
  obtain ⟨hend, hleft, hcalls⟩ := World.run_calmed _ w hfree
  have hcalm : Attachable c version w.calmed.unlogged.cluster := hw.congr rfl rfl
  obtain ⟨ready, hresult, ⟨hQ, -⟩, hasked⟩ :=
    (Succeeds.of_unlogged w.calm_calmed (plain_verifyPrerequisites hcalm)).run
  rw [hcalls] at hreach
  obtain ⟨rfl, hplaced⟩ := hQ (hasked _ hreach rfl)
  rw [← hleft] at hplaced
  generalize hw' : (run World.handler (verifyPrerequisites c version) w).2 = w' at hplaced
  have hattachable : Attachable c version w'.cluster := (hcalm.placed hplaced).congr rfl rfl
  have hthere : ∀ n ∈ disksOf c, ∃ d, w'.cluster.disks.get? n = some d := by
    intro n hn
    cases hd : w.cluster.disks.get? n with
    | some d => exact ⟨d, hplaced.kept n d hd⟩
    | none =>
      obtain ⟨d, hd', -⟩ := hplaced.made n hn hd
      exact ⟨d, hd'⟩
  refine ⟨w', Prod.ext (hend.trans hresult) hw', hthere, hattachable, ?_, ?_, hplaced.kept⟩
  · exact hattachable.exists_ownMasters fun n hn => Option.ne_none_iff_exists'.2 (hthere n hn)
  · exact congrArg (·.getD (Name.masterScaleSet c.clusterId) []) hplaced.instances

/-- Three masters in two zones, and the disk of the first member in the zone of two of them. -/
def shortWorld : World :=
  let fresh := freshWorld [zonedMaster "0" "2", zonedMaster "1" "1", zonedMaster "2" "1"]
  { fresh with cluster := fresh.cluster.addDisk strandedDisk }

/-- Each disk there can get a master. -/
theorem attachable_shortWorld : Attachable (clusterOf 3) "1.0.0" shortWorld.cluster := by
  have hdisks : ∀ n ∈ disksOf (clusterOf 3), (shortWorld.cluster.disks.get? n).all
      (fun d => isMemberDisk d && d.zone.isSome) = true := by decide +kernel
  have hnames : ∀ e ∈ shortWorld.cluster.disks.entries, e.1 ∈ disksOf (clusterOf 3) := by
    decide +kernel
  refine ⟨fun n hn d hd => ?_, fun n d hd _ => hnames (n, d) (Dict.mem_entries.2 hd), ?_, ?_, ?_⟩
  · have hboth := hdisks n hn
    rw [hd, Option.all_some, Bool.and_eq_true] at hboth
    exact ⟨hboth.1, Option.isSome_iff_ne_none.1 hboth.2⟩
  · decide +kernel
  · decide +kernel
  · decide +kernel

/-- Two disks are made, one in each of the zones that are left. -/
theorem attachable_after_verify_short :
    Attachable (clusterOf 3) "1.0.0" shortWorld.cluster ∧
      ∃ w', run World.handler (verifyPrerequisites (clusterOf 3) "1.0.0") shortWorld =
        (.ok false, w') ∧
        Attachable (clusterOf 3) "1.0.0" w'.cluster ∧
        diskZones (clusterOf 3) w'.cluster = ["1", "2", "1"] := by
  have hreach : (calls World.handler (verifyPrerequisites (clusterOf 3) "1.0.0") shortWorld)[9]? =
      some (.cloud (clusterOf 3).group.account (clusterOf 3).group.name .listSnapshots) := rfl
  obtain ⟨w', hrun, -, hattachable, -, -, -⟩ :=
    attachable_after_verify (clusterOf 3) "1.0.0" shortWorld
    attachable_shortWorld (fun call _ => World.Calm.not_refuses ⟨rfl, rfl, rfl⟩ call)
      (List.mem_of_getElem? hreach)
  have hzones : diskZones (clusterOf 3)
      (run World.handler (verifyPrerequisites (clusterOf 3) "1.0.0") shortWorld).2.cluster =
      ["1", "2", "1"] := by
    decide +kernel
  rw [hrun] at hzones
  exact ⟨attachable_shortWorld, w', hrun, hattachable, hzones⟩

end TenantFleet.Etcd
