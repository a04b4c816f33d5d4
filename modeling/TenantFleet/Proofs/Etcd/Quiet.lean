/-
# The quiet calls of a pass over the members

Most of what a pass asks changes neither disks nor snapshots nor masters. In a world in which
nothing fails all of these calls are answered, and they leave everything that a pass needs. So the
count of what is there, and the start of a member, succeed and leave the stock as it was.

* `Quiet` : calls that leave the stock;
* `Unmoved` : that two worlds have the same stock;
* `succeeds_verifyPrerequisites` : the first half of a pass, up to the disks that it makes;
* `succeeds_startMember` : the start of a member.
-/
import TenantFleet.Proofs.Etcd.Aborted
import TenantFleet.Proofs.Program.Success

namespace TenantFleet

open Program

/-- Whether a call changes disks, snapshots or instances. -/
def Call.stocks : Call → Bool
  | .cloud _ _ (.putDisk _ _) | .cloud _ _ (.deleteDisk _) | .cloud _ _ (.putSnapshot _ _)
  | .cloud _ _ (.deleteSnapshot _) | .cloud _ _ (.putInstance _ _ _) |
    .cloud _ _ (.updateInstances _ _)
  | .cloud _ _ (.deleteInstances _ _) => true
  | _ => false

namespace Etcd

variable {α : Type} {c : AzureConfig} {version : String} {w w' w'' : World} {call : Call}
  {k : CloudCall}

/-! ## Calls that leave the stock -/

/-- Whether a call leaves masters, disks and snapshots. -/
def Quiet (call : Call) : Prop := Looks call ∧ call.stocks = false

theorem quiet_ensureCertConfig (config : CertConfig) : Quiet (.ensureCertConfig config) :=
  ⟨trivial, rfl⟩

theorem quiet_findBundle (clusterId : String) (cert : EtcdCert) :
    Quiet (.findBundle clusterId cert) :=
  ⟨trivial, rfl⟩

/-- Whether two worlds differ neither in masters, disks and snapshots, nor in what a pass needs. -/
structure Unmoved (w w' : World) : Prop extends Alike w w' where
  snapshots : w'.cluster.snapshots = w.cluster.snapshots
  interfaces : w'.cluster.interfaces = w.cluster.interfaces

namespace Unmoved

theorem refl (w : World) : Unmoved w w := ⟨.refl w, rfl, rfl⟩

theorem trans (h : Unmoved w w') (h' : Unmoved w' w'') : Unmoved w w'' :=
  ⟨h.toAlike.trans h'.toAlike, h'.snapshots.trans h.snapshots, h'.interfaces.trans h.interfaces⟩

end Unmoved

/-- A quiet call leaves the stock. -/
theorem unmoved_of_quiet (hw : Equipped c version w) (hcall : Quiet call) :
    Unmoved w (World.answer call w).2 := by
  have hsame : (World.answer call w).2.cluster.snapshots = w.cluster.snapshots ∧
      (World.answer call w).2.cluster.interfaces = w.cluster.interfaces := by
    by_cases hcloud : ∃ secret group k, call = .cloud (.cluster secret) group k
    · obtain ⟨secret, group, k, rfl⟩ := hcloud
      have hcalm : (w.subscription (.cluster secret)).failures = .empty := hw.cloudCalm
      rw [World.answer_cloud_of_steady hcalm]
      obtain ⟨⟨hkeeps, hmoves⟩, hstocks⟩ := hcall
      cases k with
      | putSnapshot name value => cases hmoves
      | deleteSnapshot name => cases hstocks
      | putInstance scaleSet inst value => cases hstocks
      | _ => exact ⟨rfl, rfl⟩
    · rw [w.cluster_answer fun secret group k heq => hcloud ⟨secret, group, k, heq⟩]
      exact ⟨rfl, rfl⟩
  exact ⟨alike_of_looks hcall.1 hw (Or.inl rfl), hsame.1, hsame.2⟩

/-- A request of the cluster is performed. -/
theorem answer_request (hw : Equipped c version w) :
    World.answer (.cloud c.group.account c.group.name k) w =
    (((w.cluster.logged k).perform c.group.name k).1,
      { w with cluster := ((w.cluster.logged k).perform c.group.name k).2 }) := by
  have hcalm : (w.subscription c.group.account).failures = .empty := hw.cloudCalm
  rw [World.answer_cloud_of_steady hcalm]
  rfl

/-- A request that is answered does what it says. -/
theorem succeeds_performed {P : Call → Prop} {a : k.Answer} (hw : Equipped c version w)
    (hP : P (.cloud c.group.account c.group.name k))
    (ha : ((w.cluster.logged k).perform c.group.name k).1 = .ok a) :
    Succeeds World.handler P (fun a' w' => a' = a ∧
      w' = { w with cluster := ((w.cluster.logged k).perform c.group.name k).2 })
        (c.group.call k) w :=
  Succeeds.call hP ((congrArg Prod.fst (answer_request hw)).trans ha)
    ⟨rfl, congrArg Prod.snd (answer_request hw)⟩

/-- A quiet request is answered. -/
theorem succeeds_request {a : k.Answer} (hw : Equipped c version w)
    (hk : Quiet (.cloud c.group.account c.group.name k))
    (ha : ((w.cluster.logged k).perform c.group.name k).1 = .ok a) :
    Succeeds World.handler Quiet (fun a' w' => a' = a ∧ Unmoved w w') (c.group.call k) w :=
  Succeeds.call hk ((congrArg Prod.fst (answer_request hw)).trans ha) ⟨rfl, unmoved_of_quiet hw hk⟩

/-- A resource is found when it is there. -/
theorem succeeds_find? (found : Option k.Answer) (what : String) (hw : Equipped c version w)
    (hk : Quiet (.cloud c.group.account c.group.name k))
    (hfound : ((w.cluster.logged k).perform c.group.name k).1 = Subscription.orMissing found what) :
    Succeeds World.handler Quiet (fun found' w' => found' = found ∧ Unmoved w w')
      (c.group.find? k) w := by
  refine Succeeds.find? hk ?_ ⟨rfl, unmoved_of_quiet hw hk⟩
  have hr := (congrArg Prod.fst (answer_request hw)).trans hfound
  cases found with
  | some a => exact hr
  | none => exact ⟨_, rfl, hr⟩

/-! ## Looking whether everything is there -/

/-- A bundle that is there is found. -/
theorem answer_findBundle (hw : Equipped c version w) {cert : EtcdCert} {tls : Tls}
    (htls : Table.at? w.bundles c.clusterId cert.name = some tls) :
    (World.answer (.findBundle c.clusterId cert) w).1 = .ok tls := by
  rw [World.answer_of_steady hw.calm (by rintro _ _ _ ⟨⟩)]
  have hrecord : Table.at? (w.record (.findBundle c.clusterId cert)).bundles c.clusterId cert.name =
      some tls :=
    htls
  unfold World.perform
  dsimp only
  rw [hrecord]

/-- Certificates that are there are counted. -/
theorem succeeds_countCerts {certs : List EtcdCert} (hw : Equipped c version w)
    (hcerts : ∀ cert ∈ certs, ∃ tls, Table.at? w.bundles c.clusterId cert.name = some tls) :
    Succeeds World.handler Quiet (fun count w' => count = certs.length ∧ Unmoved w w')
      (countCerts c certs) w := by
  induction certs generalizing w with
  | nil => exact ⟨rfl, .refl w⟩
  | cons cert rest ih =>
    have hasked : (World.answer (.ensureCertConfig (certConfig c cert.name)) w).1 = .ok () := by
      rw [World.answer_of_steady hw.calm (by rintro _ _ _ ⟨⟩)]
      rfl
    refine (Succeeds.call (Q := fun _ w' => Unmoved w w') (quiet_ensureCertConfig _) hasked
      (unmoved_of_quiet hw (quiet_ensureCertConfig _))).andThen fun _ w₁ h₁ => ?_
    have hw₁ := h₁.equipped hw
    obtain ⟨tls, htls⟩ := hcerts cert List.mem_cons_self
    rw [← h₁.bundles] at htls
    refine (Succeeds.attempt (Q := fun found w' => found = .ok tls ∧ Unmoved w₁ w')
      (quiet_findBundle _ cert)
      ⟨answer_findBundle hw₁ htls, unmoved_of_quiet hw₁ (quiet_findBundle _ cert)⟩).andThen ?_
    rintro _ w₂ ⟨rfl, h₂⟩
    have h := h₁.trans h₂
    have hrest : ∀ cert ∈ rest, ∃ tls, Table.at? w₂.bundles c.clusterId cert.name = some tls := by
      intro cert' hcert'
      rw [h.bundles]
      exact hcerts cert' (List.mem_cons_of_mem _ hcert')
    refine (ih (h.equipped hw) hrest).andThen ?_
    rintro count w₃ ⟨rfl, h₃⟩
    exact ⟨Nat.add_comm _ _, h.trans h₃⟩

/-- Where nothing is missing but disks, their count decides what a look finds; what it does when
disks are missing is to make them. -/
theorem succeeds_verifyPrerequisites {P : Call → Prop} {Q : Bool → World → Prop}
    (hw : Equipped c version w)
    (hP : ∀ call, Quiet call → P call) (hfull : Full c w.cluster → ∀ w', Unmoved w w' → Q true w')
    (hnot : ¬ Full c w.cluster → ∀ w', Unmoved w w' →
      Succeeds World.handler P (fun _ w'' => Q false w'')
      (ensureDisks c (memberCount c.masterCount) (zonesLeft c version w.cluster)) w') :
    Succeeds World.handler P Q (verifyPrerequisites c version) w := by
  have hwiden : ∀ {β : Type} {p : Program β} {w : World} {R : β → World → Prop},
      Succeeds World.handler Quiet R p w → Succeeds World.handler P R p w :=
    fun hs => hs.mono hP fun _ _ h => h
  unfold verifyPrerequisites
  refine (hwiden (succeeds_countCerts hw hw.certs)).andThen ?_
  rintro certs w₁ ⟨hcerts, h₁⟩
  have hw₁ := h₁.equipped hw
  obtain ⟨m, hm, hversion⟩ := hw₁.scaleSet
  refine (hwiden (succeeds_find? (k := .getScaleSet (Name.masterScaleSet c.clusterId))
    (some m) _ hw₁ ⟨⟨trivial, rfl⟩, rfl⟩ (congrArg (Subscription.orMissing · _) hm))).andThen ?_
  rintro found w₂ ⟨rfl, h₂⟩
  dsimp only
  rw [if_pos hversion]
  have hw₂ := h₂.equipped hw₁
  refine (hwiden (succeeds_request (k := .listInstances (Name.masterScaleSet c.clusterId)) hw₂
    ⟨⟨trivial, rfl⟩, rfl⟩ (perform_listInstances hw₂ _))).andThen ?_
  rintro l w₃ ⟨rfl, h₃⟩
  have hw₃ := h₃.equipped hw₂
  refine (hwiden (succeeds_request (k := .listDisks) hw₃ ⟨⟨trivial, rfl⟩, rfl⟩ rfl)).andThen ?_
  rintro l w₄ ⟨rfl, h₄⟩
  -- All of this was about the world that the pass began in.
  have h : Unmoved w w₄ := ((h₁.trans h₂).trans h₃).trans h₄
  have hmasters : mastersIn c w₂.cluster = mastersIn c w.cluster := (h₁.trans h₂).mastersIn c
  have hdisks : (w₃.cluster.logged .listDisks).disks = w.cluster.disks :=
    ((h₁.trans h₂).trans h₃).disks
  rw [hmasters, hdisks, countP_currentMasters hw]
  by_cases hcount : Full c w.cluster
  · rw [if_pos ⟨rfl, hcount⟩]
    have hall : decide (certs = memberCount c.masterCount) = true :=
      decide_eq_true (hcerts.trans (length_memberCerts _))
    show Q (decide _) w₄
    rw [hall]
    exact hfull hcount w₄ h
  · rw [if_neg fun hboth => hcount hboth.2]
    exact (hnot hcount w₄ h).andThen fun _ _ hQ => hQ

/-! ## Starting a member -/

/-- The address of a master. -/
def addressIn (c : AzureConfig) (s : Subscription) (inst : String) : Option String :=
  (Table.at? s.interfaces (Name.masterScaleSet c.clusterId) inst).bind
  NetworkInterface.primaryAddress

theorem Unmoved.addressIn (h : Unmoved w w') (c : AzureConfig) (inst : String) :
    addressIn c w'.cluster inst = addressIn c w.cluster inst := by
  unfold Etcd.addressIn
  rw [h.interfaces]

/-- Each member has a certificate of its name. -/
theorem exists_cert {n : String} (hn : n ∈ disksOf c) :
    ∃ cert ∈ memberCerts (memberCount c.masterCount), EtcdCert.ofName? n = some cert := by
  have hle : memberCount c.masterCount ≤ 3 := Nat.le_trans (memberCount_le _) (Nat.min_le_right _ _)
  unfold disksOf at hn
  generalize memberCount c.masterCount = count at hle hn
  have hall : ∀ n ∈ memberDisks count, ∃ cert ∈ memberCerts count,
      EtcdCert.ofName? n = some cert := by
    match count, hle with
    | 0, _ => decide +kernel
    | 1, _ => decide +kernel
    | 2, _ => decide +kernel
    | 3, _ => decide +kernel
  exact hall n hn

/-- The name of a member is not empty. -/
theorem ne_empty_of_mem_disksOf {n : String} (hn : n ∈ disksOf c) : n ≠ "" := by
  rintro rfl
  obtain ⟨cert, -, hcert⟩ := exists_cert hn
  cases hcert

/-- The address of a master is found when its interface has one. -/
theorem succeeds_masterAddress {inst address : String} (hw : Equipped c version w)
    (haddress : addressIn c w.cluster inst = some address) :
    Succeeds World.handler Quiet (fun a w' => a = address ∧ Unmoved w w')
      (masterAddress c inst) w := by
  obtain ⟨interface, hinterface, hprimary⟩ := Option.bind_eq_some_iff.1 haddress
  refine (succeeds_request (k := .getInterface (Name.masterScaleSet c.clusterId) inst
    (Name.masterInterface c.clusterId)) hw ⟨⟨trivial, rfl⟩, rfl⟩
    (a := { interface with name := some (Name.masterInterface c.clusterId) }) ?_).andThen ?_
  · show Subscription.orMissing ((Table.at? w.cluster.interfaces _ _).map _) _ = _
    rw [hinterface]
    rfl
  rintro _ w₁ ⟨rfl, h₁⟩
  have hsame : ({ interface with name := some (Name.masterInterface c.clusterId) } :
      NetworkInterface).primaryAddress = some address := hprimary
  rw [hsame]
  exact ⟨rfl, h₁⟩

/-- A member of the cluster is started on a master with an address. -/
theorem succeeds_startMember {inst n address : String} (hw : Equipped c version w)
    (haddress : addressIn c w.cluster inst = some address) (hn : n ∈ disksOf c)
    (entries : List String) :
    Succeeds World.handler Quiet (fun _ w' => Unmoved w w') (startMember c inst n entries) w := by
  unfold startMember
  refine (succeeds_masterAddress hw haddress).andThen ?_
  rintro found w₁ ⟨rfl, h₁⟩
  have hrecord : Succeeds World.handler Quiet (fun _ w' => Unmoved w₁ w')
      (ensureRecord c n found) w₁ := by
    have hw₁ := h₁.equipped hw
    refine (succeeds_find? (k := .getRecord c.dnsZone n) _ _ hw₁ ⟨⟨trivial, rfl⟩, rfl⟩
      rfl).andThen ?_
    rintro found w₂ ⟨rfl, h₂⟩
    refine (succeeds_request (k := .putRecord c.dnsZone n _) (h₂.equipped hw₁) ⟨⟨trivial, rfl⟩, rfl⟩
      rfl).andThen ?_
    rintro _ w₃ ⟨rfl, h₃⟩
    exact h₂.trans h₃
  refine hrecord.andThen fun _ w₂ h₂ => ?_
  obtain ⟨cert, hcert, hname⟩ := exists_cert hn
  have hslot : certOf n = done (.ok cert) := by
    unfold certOf
    rw [hname]
    rfl
  rw [hslot]
  have h := h₁.trans h₂
  have hw₂ := h.equipped hw
  obtain ⟨tls, htls⟩ := hw₂.certs cert hcert
  refine (Succeeds.call (Q := fun _ w' => Unmoved w₂ w') (quiet_findBundle _ cert)
    (answer_findBundle hw₂ htls)
    (unmoved_of_quiet hw₂ (quiet_findBundle _ cert))).andThen fun _ w₃ h₃ => ?_
  refine (succeeds_request (k := .runCommand (Name.masterScaleSet c.clusterId) inst _)
    (h₃.equipped hw₂) ⟨⟨trivial, rfl⟩, rfl⟩ rfl).andThen ?_
  rintro _ w₄ ⟨-, h₄⟩
  exact (h.trans h₃).trans h₄

end Etcd

end TenantFleet
