/-
# A fresh cluster converges

A cluster that has masters but no disks needs two passes: the first one makes a disk for each
member, the second one attaches them. The disks are made in the zones of the first masters, so each
of these finds its own disk, none is moved, and a third pass only looks.

* `Standing` : how far a cluster is;
* `succeeds_makeDisks`, `succeeds_attachAll` : how the disks are made and taken;
* `succeeds_first`, `succeeds_second`, `succeeds_third` : the three passes;
* `Fresh`, `Converged`, `converges` : where they begin, and what they come to.
-/
import TenantFleet.Proofs.Etcd.Dealt
import TenantFleet.Proofs.Etcd.Healing
import TenantFleet.Proofs.Etcd.Quiet

namespace TenantFleet.Etcd

open Program

variable {c : AzureConfig} {subscription version n : String} {w w' : World}
  {names first tail : List String} {l before rest : List Instance} {v : Instance} {k : Nat}

/-! ## How far a cluster is -/

/-- Whether nothing is missing in a world but the disks of some members: there is a disk for each
name, and the first masters have theirs. -/
structure Standing (c : AzureConfig) (subscription version : String) (l : List Instance)
    (names : List String) (k : Nat) (w : World) : Prop extends Equipped c version w where
  snapshots : w.cluster.snapshots = .empty
  addressed : ∀ v ∈ l, ∃ address, addressIn c w.cluster v.instanceId = some address
  dealt : Dealt (Name.masterScaleSet c.clusterId) l names k w.cluster
  listed : mastersIn c w.cluster = deal c subscription (names.take k) l

/-- A world with the same stock is as far. -/
theorem Unmoved.standing (h : Unmoved w w') (hw : Standing c subscription version l names k w) :
    Standing c subscription version l names k w' where
  toEquipped := h.equipped hw.toEquipped
  snapshots := h.snapshots.trans hw.snapshots
  addressed v hv := by
    obtain ⟨address, haddress⟩ := hw.addressed v hv
    exact ⟨address, (h.addressIn c _).trans haddress⟩
  dealt := hw.dealt.congr h.disks
  listed := (h.mastersIn c).trans hw.listed

/-- There are as many masters as there should be. -/
theorem Standing.length_eq (hw : Standing c subscription version l names k w) :
    l.length = c.masterCount := by
  rw [← hw.count, hw.listed, length_deal]

/-- So there is one for each member. -/
theorem Standing.length_disksOf_le (hw : Standing c subscription version l names k w) :
    (disksOf c).length ≤ l.length := by
  rw [hw.length_eq, length_disksOf]
  exact Nat.le_trans (memberCount_le _) (Nat.min_le_left _ _)

/-- What only looks moves nothing. -/
theorem moves_of_quiet {call : Call} (h : Quiet call) : call.moves = false := moves_of_looks h.1

/-! ## Making the disks -/

/-- The zones of masters that all have one. -/
theorem getElem?_zones (hzoned : ∀ v ∈ l, v.zone ≠ none) (i : Nat) :
    (l.filterMap Instance.zone)[i]? = l[i]?.bind Instance.zone := by
  induction l generalizing i with
  | nil => rfl
  | cons v rest ih =>
    obtain ⟨zone, hzone⟩ := Option.ne_none_iff_exists'.1 (hzoned v List.mem_cons_self)
    rw [List.filterMap_cons_some hzone]
    cases i with
    | zero => exact hzone.symm
    | succ i => exact ih (fun u hu => hzoned u (List.mem_cons_of_mem _ hu)) i

/-- The next disk is made. -/
theorem Standing.put (hw : Standing c subscription version l first 0 w) (hn : n ∉ first)
    (hv : l[first.length]? = some v) {zone : String} (hzone : v.zone = some zone)
    (content : CreationData) :
    Standing c subscription version l (first ++ [n]) 0 { w with
      cluster := (w.cluster.logged (.putDisk n (newDisk c zone content))).putDisk c.group.name n
        (newDisk c zone content) } where
  toEquipped := Beside.equipped (w := w) ⟨rfl, rfl, rfl, rfl, rfl, rfl⟩ hw.toEquipped
  snapshots := hw.snapshots
  addressed := hw.addressed
  dealt := by
    have hlogged : Dealt (Name.masterScaleSet c.clusterId) l first 0
        (w.cluster.logged (.putDisk n (newDisk c zone content))) := hw.dealt.congr rfl
    exact hlogged.put hn hv hzone hw.newState content c.group.name
  listed := hw.listed

/-- The disks that are missing are made, each in the zone of the next master. -/
theorem succeeds_makeDisks (hzoned : ∀ v ∈ l, v.zone ≠ none)
    (hlength : (first ++ tail).length ≤ l.length) (hnodup : (first ++ tail).Nodup)
    (hw : Standing c subscription version l first 0 w) :
    Succeeds World.handler (fun call => call.moves = false)
      (fun _ w' => Standing c subscription version l (first ++ tail) 0 w')
      (makeDisks c (l.filterMap Instance.zone) [] first.length tail) w := by
  induction tail generalizing first w with
  | nil =>
    rw [List.append_nil]
    exact hw
  | cons n tail ih =>
    have hn : n ∉ first := fun hmem =>
      (List.nodup_append.1 hnodup).2.2 n hmem n List.mem_cons_self rfl
    have hmissing : w.cluster.disks.get? n = none :=
      Option.eq_none_iff_forall_ne_some.2 fun d hd => hn (hw.dealt.only n d hd)
    -- The zone is that of the next master, since all masters before it have one.
    have hplace : first.length < l.length := by
      rw [List.length_append, List.length_cons] at hlength
      omega
    have hv : l[first.length]? = some l[first.length] := List.getElem?_eq_getElem hplace
    obtain ⟨zone, hzone⟩ := Option.ne_none_iff_exists'.1
      (hzoned l[first.length] (List.getElem_mem hplace))
    have hcount : (l.filterMap Instance.zone).length = l.length := by
      rw [List.length_filterMap_eq_countP]
      exact List.countP_eq_length.2 fun v hv => Option.isSome_iff_ne_none.2 (hzoned v hv)
    have hnext : (l.filterMap Instance.zone)[first.length % (l.filterMap Instance.zone).length]? =
        some zone := by
      rw [hcount, Nat.mod_eq_of_lt hplace, getElem?_zones hzoned, hv]
      exact hzone
    rw [makeDisks]
    refine ((succeeds_find? (k := .getDisk n) none ("disk " ++ n) hw.toEquipped
      ⟨⟨trivial, rfl⟩, rfl⟩
      (congrArg (Subscription.orMissing · _) hmissing)).mono (fun _ => moves_of_quiet) fun _ _ h =>
        h).andThen ?_
    rintro _ w₁ ⟨rfl, h₁⟩
    have hw₁ := h₁.standing hw
    dsimp only
    rw [hnext]
    refine (succeeds_performed (P := fun call => call.moves = false)
      (k := .putDisk n (newDisk c zone (contentFor [] n))) hw₁.toEquipped rfl rfl).andThen ?_
    rintro _ w₂ ⟨-, rfl⟩
    have hput := hw₁.put hn hv hzone (contentFor [] n)
    rw [List.append_cons first n tail] at hlength hnodup ⊢
    have hmade := ih hlength hnodup hput
    rw [List.length_append, List.length_singleton] at hmade
    exact hmade

/-- All of them are made when there are neither disks nor snapshots. -/
theorem succeeds_ensureDisks (hzoned : ∀ v ∈ l, v.zone ≠ none)
    (hw : Standing c subscription version l [] 0 w) :
    Succeeds World.handler (fun call => call.moves = false)
      (fun _ w' => Standing c subscription version l (disksOf c) 0 w')
      (ensureDisks c (memberCount c.masterCount) (l.filterMap Instance.zone)) w := by
  have hnone : (w.cluster.logged .listSnapshots).snapshots.values = [] :=
    congrArg Dict.values hw.snapshots
  refine ((succeeds_request (k := .listSnapshots) (a := []) hw.toEquipped ⟨⟨trivial, rfl⟩, rfl⟩
    (congrArg Except.ok hnone)).mono (fun _ => moves_of_quiet) fun _ _ h => h).andThen ?_
  rintro _ w₁ ⟨rfl, h₁⟩
  exact succeeds_makeDisks hzoned hw.length_disksOf_le (nodup_disksOf c) (h₁.standing hw)

/-! ## Taking the disks -/

/-- The masters behind those that have disks are as they were. -/
theorem Standing.masters_eq (hw : Standing c subscription version (before ++ rest) (disksOf c)
    before.length w)
    (hplace : before.length ≤ (disksOf c).length) :
    mastersIn c w.cluster = deal c subscription ((disksOf c).take before.length) before ++
      rest := by
  rw [hw.listed]
  exact deal_append (List.length_take_of_le hplace)

/-- The next master takes the next disk. -/
theorem Standing.take (hw : Standing c subscription version (before ++ v :: rest) (disksOf c)
    before.length w)
    (hdistinct : ((before ++ v :: rest).map Instance.instanceId).Nodup)
    (hn : (disksOf c)[before.length]? = some n)
    (huntangled : ∀ d ∈ v.dataDisks, ∀ m ∈ disksOf c, d.name = some m → m = n) :
    let scaleSet := Name.masterScaleSet c.clusterId
    let value := v.attach diskUnit n (diskId subscription c.clusterId n)
    Standing c subscription version (before ++ v :: rest) (disksOf c) (before.length + 1) { w with
      cluster := (w.cluster.logged (.putInstance scaleSet v.instanceId value)).putInstance scaleSet
        v.instanceId value } := by
  intro scaleSet value
  have hplace : before.length < (disksOf c).length := (List.getElem?_eq_some_iff.1 hn).1
  have htaken : ((disksOf c).take before.length).length = before.length :=
    List.length_take_of_le hplace.le
  have hlisted := hw.masters_eq hplace.le
  have hmember : v ∈ mastersIn c w.cluster := by
    rw [hlisted]
    exact List.mem_append_right _ List.mem_cons_self
  have htag : value.hasTag Tag.operatorVersion version = true := (hw.masters v hmember).2
  have hplaced : (before ++ v :: rest)[before.length]? = some v := by simp
  refine ⟨hw.toEquipped.putInstance htag _ _, hw.snapshots, hw.addressed, ?_, ?_⟩
  · have hlogged : Dealt scaleSet (before ++ v :: rest) (disksOf c) before.length
        (w.cluster.logged (.putInstance scaleSet v.instanceId value)) := hw.dealt.congr rfl
    exact hlogged.take (nodup_disksOf c) hn hplaced huntangled _
  · -- Only this master is written, since its ID is not that of one before it.
    have hothers : ∀ u ∈ deal c subscription ((disksOf c).take before.length) before,
        u.instanceId ≠ v.instanceId := by
      intro u hu heq
      rw [List.map_append, List.map_cons] at hdistinct
      have hid : u.instanceId ∈ before.map Instance.instanceId := by
        rw [← map_deal (c := c) (fun _ _ => rfl) ((disksOf c).take before.length) before]
        exact List.mem_map_of_mem hu
      exact (List.nodup_append.1 hdistinct).2.2 _ hid _ List.mem_cons_self heq
    rw [mastersIn, instancesOf_putInstance, if_pos rfl, List.take_add_one, hn]
    refine Eq.trans ?_ (deal_snoc htaken).symm
    have hsame : (w.cluster.logged (.putInstance scaleSet v.instanceId value)).instancesOf
        (Name.masterScaleSet c.clusterId) = _ := hlisted
    rw [hsame, modifyFirst_append _ hothers rfl]
    rfl

/-- When all disks are taken no master gets another one. -/
theorem succeeds_attachDisk_of_taken
    (hw : Standing c subscription version l (disksOf c) (disksOf c).length w)
    (v : Instance) : Succeeds World.handler Quiet (fun disk w' => disk = "" ∧ Unmoved w w')
      (attachDisk c subscription v) w := by
  have hfind : Succeeds World.handler Quiet (fun disk w' => disk = "" ∧ Unmoved w w')
      (findAvailableDisk c (v.zone.getD "")) w := by
    refine (succeeds_request (k := .listDisks) hw.toEquipped ⟨⟨trivial, rfl⟩, rfl⟩ rfl).andThen ?_
    rintro _ w₁ ⟨rfl, h₁⟩
    have hchoice : chooseDisk (v.zone.getD "") (w.cluster.logged .listDisks).disks.values =
        .nothing :=
      hw.dealt.choose_nothing (sorted_disksOf c) _
    rw [hchoice]
    exact ⟨rfl, h₁⟩
  refine hfind.andThen ?_
  rintro _ w₁ ⟨rfl, h₁⟩
  exact ⟨rfl, h₁⟩

/-- Whether a master is ready, has an address, and has no disk but one of a member. -/
structure Attended (c : AzureConfig) (w : World) (v : Instance) : Prop where
  ready : v.succeeded = true
  member : memberOf v = "" ∨ memberOf v ∈ disksOf c
  address : ∃ address, addressIn c w.cluster v.instanceId = some address

/-- Masters that had no disks have no others. -/
theorem Standing.attended (hw : Standing c subscription version l (disksOf c) k w)
    (hbare : ∀ v ∈ l, v.diskAt diskUnit = none) : ∀ u ∈ mastersIn c w.cluster, Attended c w u := by
  intro u hu
  have hready := (hw.masters u hu).1
  rw [hw.listed] at hu
  obtain ⟨v, hv, rfl | ⟨n, hn, rfl⟩⟩ := mem_deal hu
  · exact ⟨hready, Or.inl (memberOf_of_bare (hbare u hv)), hw.addressed u hv⟩
  · refine ⟨hready, Or.inr ?_, hw.addressed v hv⟩
    rw [memberOf_attach (hbare v hv)]
    exact List.mem_of_mem_take hn

/-- The masters that have disks are told to start their members; the others are left. -/
theorem succeeds_attachAll_of_taken (hrest : ∀ v ∈ rest, Attended c w v)
    (hw : Standing c subscription version l (disksOf c) (disksOf c).length w)
    (entries : List String) :
    Succeeds World.handler Quiet (fun _ w' => Unmoved w w')
      (attachAll c subscription entries rest) w := by
  induction rest generalizing entries w with
  | nil => exact .refl w
  | cons v rest ih =>
    have hothers : ∀ w', Unmoved w w' → ∀ entries, Succeeds World.handler Quiet
        (fun _ w'' => Unmoved w w'') (attachAll c subscription entries rest) w' := by
      intro w' h entries
      refine (ih (fun u hu => ?_) (h.standing hw) entries).mono (fun _ h => h) fun _ _ h' =>
        h.trans h'
      obtain ⟨hready, hmember, haddress⟩ := hrest u (List.mem_cons_of_mem _ hu)
      exact ⟨hready, hmember, (h.addressIn c _).symm ▸ haddress⟩
    obtain ⟨hready, hmember, address, haddress⟩ := hrest v List.mem_cons_self
    rw [attachAll, if_pos hready]
    unfold ensureMember
    rcases hmember with hnone | hdisk
    · rw [hnone, if_pos (by rfl)]
      refine (succeeds_attachDisk_of_taken hw v).andThen ?_
      rintro _ w₁ ⟨rfl, h₁⟩
      exact hothers w₁ h₁ entries
    · have hname : (memberOf v).isEmpty = false := by simpa using ne_empty_of_mem_disksOf hdisk
      rw [hname, if_neg Bool.false_ne_true]
      show Succeeds World.handler Quiet _ (ite _ _ _) w
      rw [hname, if_neg Bool.false_ne_true]
      exact (succeeds_startMember hw.toEquipped haddress hdisk entries).andThen fun entries w₁ h₁ =>
        hothers w₁ h₁ entries

/-- The next master is given the next disk. -/
theorem succeeds_attachDisk (hzone : v.zone ≠ none)
    (hdistinct : ((before ++ v :: rest).map Instance.instanceId).Nodup)
    (hn : (disksOf c)[before.length]? = some n)
    (huntangled : ∀ d ∈ v.dataDisks, ∀ m ∈ disksOf c, d.name = some m → m = n)
    (hw : Standing c subscription version (before ++ v :: rest) (disksOf c) before.length w) :
    Succeeds World.handler (fun call => call.moves = false)
      (fun disk w' => disk = n ∧
        Standing c subscription version (before ++ v :: rest) (disksOf c) (before.length + 1) w')
      (attachDisk c subscription v) w := by
  obtain ⟨zone, hzone⟩ := Option.ne_none_iff_exists'.1 hzone
  have hplaced : (before ++ v :: rest)[before.length]? = some v := by simp
  have hfind : Succeeds World.handler Quiet (fun disk w' => disk = n ∧ Unmoved w w')
      (findAvailableDisk c (v.zone.getD "")) w := by
    refine (succeeds_request (k := .listDisks) hw.toEquipped ⟨⟨trivial, rfl⟩, rfl⟩ rfl).andThen ?_
    rintro _ w₁ ⟨rfl, h₁⟩
    obtain ⟨d, hchoice, hname⟩ := hw.dealt.choose (sorted_disksOf c) hn hplaced hzone
    have hlogged : chooseDisk (v.zone.getD "") (w.cluster.logged .listDisks).disks.values =
        .use d := by
      rw [hzone]
      exact hchoice
    rw [hlogged]
    exact ⟨hname, h₁⟩
  refine (hfind.mono (fun _ => moves_of_quiet) fun _ _ h => h).andThen ?_
  rintro n w₁ ⟨rfl, h₁⟩
  have hw₁ := h₁.standing hw
  have hname : n.isEmpty = false := by simpa using ne_empty_of_mem_disksOf (List.mem_of_getElem? hn)
  rw [hname, if_neg Bool.false_ne_true]
  have hmember : v ∈ mastersIn c w₁.cluster := by
    rw [hw₁.masters_eq (List.getElem?_eq_some_iff.1 hn).1.le]
    exact List.mem_append_right _ List.mem_cons_self
  let k : CloudCall := .putInstance (Name.masterScaleSet c.clusterId) v.instanceId
    (v.attach diskUnit n (diskId subscription c.clusterId n))
  have hthere : ((w₁.cluster.logged k).instancesOf (Name.masterScaleSet c.clusterId)).any
      (fun u => u.instanceId = v.instanceId) = true :=
    List.any_eq_true.2 ⟨v, hmember, decide_eq_true rfl⟩
  have hperform : (w₁.cluster.logged k).perform c.group.name k = _ := if_pos hthere
  refine (succeeds_performed (P := fun call => call.moves = false) (k := k) hw₁.toEquipped rfl
    (congrArg Prod.fst hperform)).andThen ?_
  rintro _ w₂ ⟨-, rfl⟩
  refine ⟨rfl, ?_⟩
  rw [hperform]
  exact hw₁.take hdistinct hn huntangled

/-- Whether no master lists a data disk that has the name of another member's. -/
def Untangled (c : AzureConfig) (l : List Instance) : Prop :=
  ∀ (i : Nat) (v : Instance) (n : String), l[i]? = some v → (disksOf c)[i]? = some n →
    ∀ d ∈ v.dataDisks, ∀ m ∈ disksOf c, d.name = some m → m = n

/-- The masters take the disks one after the other, until there are none left. -/
theorem succeeds_attachAll (hzoned : ∀ v ∈ l, v.zone ≠ none)
    (hbare : ∀ v ∈ l, v.diskAt diskUnit = none)
    (hdistinct : (l.map Instance.instanceId).Nodup) (huntangled : Untangled c l)
    (hl : l = before ++ rest) (hplace : before.length ≤ (disksOf c).length)
    (hw : Standing c subscription version l (disksOf c) before.length w) (entries : List String) :
    Succeeds World.handler (fun call => call.moves = false)
      (fun _ w' => Standing c subscription version l (disksOf c) (disksOf c).length w')
      (attachAll c subscription entries rest) w := by
  induction rest generalizing before entries w with
  | nil =>
    -- There are as many masters as disks.
    rw [List.append_nil] at hl
    have hall : before.length = (disksOf c).length :=
      Nat.le_antisymm hplace (hl ▸ hw.length_disksOf_le)
    rw [hall] at hw
    exact hw
  | cons v rest ih =>
    have hmasters := (hl ▸ hw).masters_eq hplace
    rcases hplace.eq_or_lt with hall | hnext
    · rw [hall] at hw
      refine (succeeds_attachAll_of_taken (fun u hu => ?_) hw entries).mono
        (fun _ => moves_of_quiet)
        fun _ _ h => h.standing hw
      refine hw.attended hbare u ?_
      rw [hmasters]
      exact List.mem_append_right _ hu
    · have hv : l[before.length]? = some v := by simp [hl]
      have hmem : v ∈ l := List.mem_of_getElem? hv
      have hn : (disksOf c)[before.length]? = some (disksOf c)[before.length] :=
        List.getElem?_eq_getElem hnext
      have hready : v.succeeded = true := by
        refine (hw.masters v ?_).1
        rw [hmasters]
        exact List.mem_append_right _ List.mem_cons_self
      have hname : (disksOf c)[before.length].isEmpty = false := by
        simpa using ne_empty_of_mem_disksOf (List.getElem_mem hnext)
      rw [attachAll, if_pos hready]
      unfold ensureMember
      rw [memberOf_of_bare (hbare v hmem), if_pos (by rfl)]
      refine (succeeds_attachDisk (hzoned v hmem) (hl ▸ hdistinct) hn
        (huntangled before.length v _ hv hn) (hl ▸ hw)).andThen ?_
      rintro _ w₁ ⟨rfl, hw₁⟩
      rw [hname, if_neg Bool.false_ne_true]
      obtain ⟨address, haddress⟩ := hw₁.addressed v (hl ▸ hmem)
      refine ((succeeds_startMember hw₁.toEquipped haddress (List.getElem_mem hnext) entries).mono
        (fun _ => moves_of_quiet) fun _ _ h => h).andThen fun entries w₂ h₂ => ?_
      rw [← hl] at hw₁
      have hlast : (before ++ [v]).length = before.length + 1 := by simp
      have hw₂ := h₂.standing hw₁
      rw [← hlast] at hw₂
      exact ih (hl.trans (List.append_cons _ _ _)) (hlast.trans_le hnext) hw₂ entries

/-! ## The passes -/

/-- Without snapshots there is none to delete. -/
theorem succeeds_cleanSnapshots (hw : Standing c subscription version l names k w) :
    Succeeds World.handler Quiet (fun _ w' => Unmoved w w') (cleanSnapshots c) w := by
  have hnone : (w.cluster.logged .listSnapshots).snapshots.values = [] :=
    congrArg Dict.values hw.snapshots
  refine (succeeds_request (k := .listSnapshots) (a := []) hw.toEquipped ⟨⟨trivial, rfl⟩, rfl⟩
    (congrArg Except.ok hnone)).andThen ?_
  rintro _ w₁ ⟨rfl, h₁⟩
  exact h₁

/-- When all disks are there a pass goes on to the masters. -/
theorem succeeds_of_made {P : Call → Prop} (hP : ∀ call, Quiet call → P call)
    (hw : Standing c subscription version l (disksOf c) k w)
    (hattach : ∀ w', Standing c subscription version l (disksOf c) k w' → Succeeds World.handler P
      (fun _ w'' => Standing c subscription version l (disksOf c) (disksOf c).length w'')
      (attachAll c subscription [] (mastersIn c w.cluster)) w') :
    Succeeds World.handler P
      (fun _ w' => Standing c subscription version l (disksOf c) (disksOf c).length w')
      (ensureMembers c subscription version) w := by
  have hlook : Succeeds World.handler P (fun ready w' => ready = true ∧ Unmoved w w')
      (verifyPrerequisites c version) w :=
    succeeds_verifyPrerequisites hw.toEquipped hP (fun _ _ h => ⟨rfl, h⟩)
      fun hnot => absurd hw.dealt.full hnot
  refine hlook.andThen ?_
  rintro _ w₁ ⟨rfl, h₁⟩
  have hw₁ := h₁.standing hw
  have hgive : Succeeds World.handler P
      (fun _ w' => Standing c subscription version l (disksOf c) (disksOf c).length w')
      (attachDisks c subscription) w₁ := by
    refine ((succeeds_find? (k := .listInstances (Name.masterScaleSet c.clusterId))
      (some (mastersIn c w₁.cluster)) "" hw₁.toEquipped ⟨⟨trivial, rfl⟩, rfl⟩
      (perform_listInstances hw₁.toEquipped _)).mono hP fun _ _ h => h).andThen ?_
    rintro _ w₂ ⟨rfl, h₂⟩
    rw [h₁.mastersIn]
    exact hattach w₂ (h₂.standing hw₁)
  exact hgive.andThen fun _ w₂ hw₂ =>
    (succeeds_cleanSnapshots hw₂).mono hP fun _ _ h => h.standing hw₂

/-- Whether nothing is missing for the members of a cluster but their disks, and there are no disks
yet. -/
structure Fresh (c : AzureConfig) (version : String) (w : World) :
    Prop extends Equipped c version w where
  zoned : ∀ v ∈ mastersIn c w.cluster, v.zone ≠ none
  bare : ∀ v ∈ mastersIn c w.cluster, v.diskAt diskUnit = none
  distinct : ((mastersIn c w.cluster).map Instance.instanceId).Nodup
  addressed : ∀ v ∈ mastersIn c w.cluster, ∃ address, addressIn c w.cluster v.instanceId =
    some address
  disks : w.cluster.disks = .empty
  snapshots : w.cluster.snapshots = .empty

/-- The first pass makes the disks. -/
theorem succeeds_first (hw : Fresh c version w) (hpos : 0 < c.masterCount) (subscription : String) :
    Succeeds World.handler (fun call => call.moves = false)
      (fun _ w' => Standing c subscription version (mastersIn c w.cluster) (disksOf c) 0 w')
      (ensureMembers c subscription version) w := by
  have hstart : Standing c subscription version (mastersIn c w.cluster) [] 0 w :=
    ⟨hw.toEquipped, hw.snapshots, hw.addressed, .nil hw.disks, (deal_nil _).symm⟩
  have hzones :
      zonesLeft c version w.cluster = (mastersIn c w.cluster).filterMap Instance.zone := by
    unfold zonesLeft
    rw [hw.disks, currentMasters_mastersIn hw.toEquipped]
    exact difference_nil _
  have hnot : ¬ Full c w.cluster := by
    unfold Full
    rw [hw.disks]
    intro hnone
    have hodd := memberCount_odd hpos
    rw [← hnone] at hodd
    cases hodd
  have hlook : Succeeds World.handler (fun call => call.moves = false)
      (fun ready w' => ready = false ∧
        Standing c subscription version (mastersIn c w.cluster) (disksOf c) 0 w')
      (verifyPrerequisites c version) w := by
    refine succeeds_verifyPrerequisites hw.toEquipped (fun _ => moves_of_quiet)
      (fun hfull => absurd hfull hnot) fun _ w₁ h₁ => ?_
    rw [hzones]
    exact (succeeds_ensureDisks hw.zoned (h₁.standing hstart)).mono (fun _ h => h) fun _ _ h =>
      ⟨rfl, h⟩
  refine hlook.andThen ?_
  rintro _ w₁ ⟨rfl, hw₁⟩
  exact hw₁

/-- The second pass attaches them. -/
theorem succeeds_second (hzoned : ∀ v ∈ l, v.zone ≠ none)
    (hbare : ∀ v ∈ l, v.diskAt diskUnit = none)
    (hdistinct : (l.map Instance.instanceId).Nodup) (huntangled : Untangled c l)
    (hw : Standing c subscription version l (disksOf c) 0 w) :
    Succeeds World.handler (fun call => call.moves = false)
      (fun _ w' => Standing c subscription version l (disksOf c) (disksOf c).length w')
      (ensureMembers c subscription version) w := by
  refine succeeds_of_made (fun _ => moves_of_quiet) hw fun w₁ hw₁ => ?_
  have hmasters : mastersIn c w.cluster = l := hw.listed.trans (deal_nil l)
  rw [hmasters]
  exact succeeds_attachAll hzoned hbare hdistinct huntangled (List.nil_append l).symm
    (Nat.zero_le _) hw₁ []

/-- The third pass changes neither disks nor snapshots nor masters. -/
theorem succeeds_third (hbare : ∀ v ∈ l, v.diskAt diskUnit = none)
    (hw : Standing c subscription version l (disksOf c) (disksOf c).length w) :
    Succeeds World.handler Quiet
      (fun _ w' => Standing c subscription version l (disksOf c) (disksOf c).length w')
      (ensureMembers c subscription version) w := by
  refine succeeds_of_made (fun _ h => h) hw fun w₁ hw₁ => ?_
  have hmasters : mastersIn c w.cluster = mastersIn c w₁.cluster := hw.listed.trans hw₁.listed.symm
  rw [hmasters]
  exact (succeeds_attachAll_of_taken (hw₁.attended hbare) hw₁ []).mono (fun _ h => h)
    fun _ _ h => h.standing hw₁

/-! ## Three passes -/

/-- The calls of a pass behind a number of others. -/
def passCalls (c : AzureConfig) (subscription version : String) (count : Nat)
    (w : World) : List Call :=
  calls World.handler (ensureMembers c subscription version)
    (afterPasses c subscription version count w)

/-- Whether two passes give the first masters of a world a disk each, without moving any, and a
third one leaves them. -/
structure Converged (c : AzureConfig) (subscription version : String) (w : World) : Prop where
  ok : ∀ count < 3, (run World.handler (ensureMembers c subscription version)
    (afterPasses c subscription version count w)).1 = .ok ()
  /-- No disk is hidden or deleted and no snapshot is made. -/
  unmoved : ∀ count < 2, ∀ call ∈ passCalls c subscription version count w, call.moves = false
  snapshots : (afterPasses c subscription version 2 w).cluster.snapshots = .empty
  /-- There is a disk for each member, which belongs to the master of its place and is in the zone
  of it. -/
  disk : ∀ (i : Nat) (n : String), (disksOf c)[i]? = some n → ∃ d v,
    (afterPasses c subscription version 2 w).cluster.disks.get? n = some d ∧
      (mastersIn c w.cluster)[i]? = some v ∧
      Serves d n v (some (holder (Name.masterScaleSet c.clusterId) v))
  only : ∀ n d, (afterPasses c subscription version 2 w).cluster.disks.get? n = some d →
    n ∈ disksOf c
  /-- The first masters have the disks, and the others are as they were. -/
  masters : mastersIn c (afterPasses c subscription version 2 w).cluster =
    deal c subscription (disksOf c) (mastersIn c w.cluster)
  members : (mastersIn c (afterPasses c subscription version 2 w).cluster).map memberOf =
    disksOf c ++ List.replicate (c.masterCount - (disksOf c).length) ""
  settled : ∀ call ∈ passCalls c subscription version 2 w, call.stocks = false

/-- **A fresh cluster converges.** When no master of a fresh cluster lists a data disk that has the
name of another member's, two passes give each of the first masters the disk of its place, in its
own zone, without moving any, and a third pass changes neither disks nor snapshots nor masters. -/
theorem converges (hw : Fresh c version w) (huntangled : Untangled c (mastersIn c w.cluster))
    (hpos : 0 < c.masterCount) : Converged c subscription version w := by
  obtain ⟨_, hfirst, hmade, hfirstCalls⟩ := (succeeds_first hw hpos subscription).run
  obtain ⟨_, hsecond, htaken, hsecondCalls⟩ :=
    (succeeds_second hw.zoned hw.bare hw.distinct huntangled hmade).run
  obtain ⟨_, hthird, -, hthirdCalls⟩ := (succeeds_third hw.bare htaken).run
  have hmasters : mastersIn c (afterPasses c subscription version 2 w).cluster =
      deal c subscription (disksOf c) (mastersIn c w.cluster) := by
    have hlisted := htaken.listed
    rw [List.take_length] at hlisted
    exact hlisted
  refine
    { ok := ?_, unmoved := ?_, snapshots := htaken.snapshots, disk := ?_, only := htaken.dealt.only,
      masters := hmasters, members := ?_, settled := fun call hcall => (hthirdCalls call hcall).2 }
  · intro count hcount
    match count, hcount with
    | 0, _ => exact hfirst
    | 1, _ => exact hsecond
    | 2, _ => exact hthird
  · intro count hcount
    match count, hcount with
    | 0, _ => exact hfirstCalls
    | 1, _ => exact hsecondCalls
  · intro i n hn
    obtain ⟨d, v, hd, hv, hserves⟩ := htaken.dealt.disk i n hn
    rw [if_pos (List.getElem?_eq_some_iff.1 hn).1] at hserves
    exact ⟨d, v, hd, hv, hserves⟩
  · rw [hmasters, memberOf_deal hw.bare hmade.length_disksOf_le, hw.count]

/-! ## Clusters with some masters -/

/-- A cluster with a number of masters. -/
def clusterOf (count : Nat) : AzureConfig :=
  { smallCluster with masters := List.replicate count "Standard_D4s_v3" }

/-- A master of the version in a zone, without a disk. -/
def zonedMaster (inst zone : String) : Instance :=
  { instanceId := inst, tags := Dict.empty.insert Tag.operatorVersion "1.0.0", zones := [zone],
    provisioningState := some provisioningSucceeded }

/-- A world with some masters, which have addresses, and no disks. -/
def freshWorld (l : List Instance) : World :=
  let cluster : Subscription :=
    { id := "sub-tenant"
      scaleSets := Dict.empty.insert "c1-master"
        { location := "westeurope", tags := Dict.empty.insert Tag.operatorVersion "1.0.0" }
      instances := Dict.empty.insert "c1-master" l
      interfaces := l.foldl (fun t v => Table.put t "c1-master" v.instanceId
        { configurations := [⟨some "ipconfig1", some ("10.0.0." ++ v.instanceId)⟩] }) .empty }
  let tls : Tls := ⟨"ca", "crt", "key"⟩
  [EtcdCert.etcd1, .etcd2, .etcd3].foldl (fun w cert => w.addBundle "c1" cert tls)
    { cluster := cluster, template := .null }

/-- One master more than members, in two zones. -/
def fourMasters : List Instance :=
  [zonedMaster "0" "1", zonedMaster "1" "2", zonedMaster "2" "1", zonedMaster "3" "2"]

/-- Masters of which the first one lists the disk of another member, at the second unit. -/
def tangledMasters : List Instance :=
  [(zonedMaster "0" "1").attach 1 "etcd2" "disks/etcd2", zonedMaster "1" "2", zonedMaster "2" "3"]

/-- A cluster with either masters is fresh. -/
theorem fresh_freshWorld : ∀ l ∈ [fourMasters, tangledMasters],
    Fresh (clusterOf l.length) "1.0.0" (freshWorld l) := by
  have hname : Name.masterScaleSet smallCluster.clusterId = "c1-master" := by decide +kernel
  have hmasters : ∀ l ∈ [fourMasters, tangledMasters],
      ∀ v ∈ mastersIn (clusterOf l.length) (freshWorld l).cluster,
        (v.succeeded = true ∧ v.hasTag Tag.operatorVersion "1.0.0" = true) ∧ v.zone ≠ none ∧
          v.diskAt diskUnit = none ∧
          (addressIn (clusterOf l.length) (freshWorld l).cluster v.instanceId).isSome = true := by
    decide +kernel
  have hcounts : ∀ l ∈ [fourMasters, tangledMasters],
      (mastersIn (clusterOf l.length) (freshWorld l).cluster).length =
      (clusterOf l.length).masterCount ∧
        ((mastersIn (clusterOf l.length) (freshWorld l).cluster).map
          Instance.instanceId).Nodup := by
    decide +kernel
  have hcerts : ∀ l ∈ [fourMasters, tangledMasters],
      ∀ cert ∈ memberCerts (memberCount (clusterOf l.length).masterCount),
        (Table.at? (freshWorld l).bundles (clusterOf l.length).clusterId cert.name).isSome =
        true := by
    decide +kernel
  intro l hl
  exact
    { calm := rfl
      cloudCalm := rfl
      newState := rfl
      scaleSet := ⟨_, (congrArg _ hname).trans (Dict.get?_insert_self _ _ _), by decide +kernel⟩
      masters := fun v hv => (hmasters l hl v hv).1
      count := (hcounts l hl).1
      certs := fun cert hcert => Option.isSome_iff_exists.1 (hcerts l hl cert hcert)
      zoned := fun v hv => (hmasters l hl v hv).2.1
      bare := fun v hv => (hmasters l hl v hv).2.2.1
      distinct := (hcounts l hl).2
      addressed := fun v hv => Option.isSome_iff_exists.1 (hmasters l hl v hv).2.2.2
      disks := rfl
      snapshots := rfl }

/-- Three of four masters get a disk when none lists one. -/
theorem converges_four : Fresh (clusterOf 4) "1.0.0" (freshWorld fourMasters) ∧
    Untangled (clusterOf 4) (mastersIn (clusterOf 4) (freshWorld fourMasters).cluster) ∧
    0 < (clusterOf 4).masterCount ∧
    Converged (clusterOf 4) "sub-tenant" "1.0.0" (freshWorld fourMasters) := by
  have hfresh : Fresh (clusterOf 4) "1.0.0" (freshWorld fourMasters) :=
    fresh_freshWorld fourMasters List.mem_cons_self
  have hnone : ∀ v ∈ mastersIn (clusterOf 4) (freshWorld fourMasters).cluster,
      v.dataDisks = [] := by
    decide +kernel
  have huntangled :
      Untangled (clusterOf 4) (mastersIn (clusterOf 4) (freshWorld fourMasters).cluster) := by
    intro i v n hv hn d hd
    rw [hnone v (List.mem_of_getElem? hv)] at hd
    cases hd
  exact ⟨hfresh, huntangled, by decide, converges hfresh huntangled (by decide)⟩

/-- When the first master lists the disk of another member it takes it along, and a disk is moved
for the other one. -/
theorem not_converged : ¬ ∀ (c : AzureConfig) (subscription version : String) (w : World),
    Fresh c version w → 0 < c.masterCount → Converged c subscription version w := by
  intro hclaim
  have hfresh : Fresh (clusterOf 3) "1.0.0" (freshWorld tangledMasters) :=
    fresh_freshWorld tangledMasters (List.mem_cons_of_mem _ List.mem_cons_self)
  have hmoves :
      ¬ ∀ call ∈ passCalls (clusterOf 3) "sub-tenant" "1.0.0" 1 (freshWorld tangledMasters),
      call.moves = false := by decide +kernel
  exact hmoves ((hclaim _ "sub-tenant" _ _ hfresh (by decide)).unmoved 1 (by decide))

end TenantFleet.Etcd
