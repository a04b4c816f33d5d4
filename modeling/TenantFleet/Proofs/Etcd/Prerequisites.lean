/-
# What a look at the prerequisites says

Before disks are attached, a pass looks whether everything is there. Masters and disks are counted
and not compared with the names they should have. So a look finds everything exactly when the
numbers are right; which disks were counted follows from this only when no other disks have the role
of a member.

* `Findings`, `Tells` : the answers that a look goes by, and that a handler gives them;
* `Supplied`, `Counted`, `Named` : what is looked for, with the disks by number or by name;
* `succeeds_countCerts_of_tells`, `succeeds_look` : what a look comes to;
* `counted_iff_named` : when the number of the disks says which ones they are;
* `verifies_iff`, `not_verifies_named` : what a look says.
-/
import TenantFleet.Proofs.Etcd.Aborted
import TenantFleet.Proofs.Program.Success

namespace TenantFleet.Etcd

open Program

/-! ## Answers -/

/-- What the cloud and the issuer of certificates answer about a cluster. -/
structure Findings where
  /-- The scale set of the masters. -/
  scaleSet : Option ScaleSet
  /-- The listed instances. -/
  instances : List Instance
  /-- The listed disks. -/
  disks : List Disk
  /-- The issued bundles. -/
  bundle : EtcdCert → Option Tls

variable {ω : Type} {h : Handler ω} {c : AzureConfig} {version : String} {f : Findings} {w : ω}

/-- Whether a request about the group of a cluster is answered so; the resource may be missing. -/
def Finds (h : Handler ω) (c : AzureConfig) (k : CloudCall) (w : ω) : Option k.Answer → Prop
  | some a => (h.answer (.cloud c.group.account c.group.name k) w).1 = .ok a
  | none => ∃ e : AzureError, e.isNotFound = true ∧
    (h.answer (.cloud c.group.account c.group.name k) w).1 = .error e

/-- Whether a handler gives these answers at any time, and nothing fails on the way. -/
structure Tells (h : Handler ω) (c : AzureConfig) (f : Findings) : Prop where
  request : ∀ config w, (h.answer (.ensureCertConfig config) w).1 = .ok ()
  bundle : ∀ cert w, (h.answer (.findBundle c.clusterId cert) w).1.toOption = f.bundle cert
  scaleSet : ∀ w, Finds h c (.getScaleSet (Name.masterScaleSet c.clusterId)) w f.scaleSet
  instances : f.scaleSet ≠ none → ∀ w,
    Finds h c (.listInstances (Name.masterScaleSet c.clusterId)) w (some f.instances)
  disks : ∀ w, Finds h c .listDisks w (some f.disks)
  snapshots : ∀ w, ∃ l, Finds h c .listSnapshots w (some l)
  disk : ∀ name w, ∃ found, Finds h c (.getDisk name) w found
  putDisk : ∀ name value w, ∃ operation, Finds h c (.putDisk name value) w (some operation)

/-- Whether a disk counts for a member. -/
def counts (d : Disk) : Bool := isMemberDisk d && d.succeeded

/-- Whether everything but disks is there: the scale set is of the version, as many instances as
there are masters are of the version and ready, and every member has its bundle. -/
structure Supplied (c : AzureConfig) (version : String) (f : Findings) : Prop where
  scaleSet : ∃ s, f.scaleSet = some s ∧ hasVersion version s = true
  masters : f.instances.countP (fun v => v.hasTag Tag.operatorVersion version && v.succeeded) =
    c.masterCount
  certs : ∀ cert ∈ memberCerts (memberCount c.masterCount), (f.bundle cert).isSome = true

/-- Whether as many disks count as there are members. -/
def Counted (c : AzureConfig) (f : Findings) : Prop :=
  f.disks.countP counts = memberCount c.masterCount

/-- Whether the disk of every member is there, has the role and is ready. -/
def Named (c : AzureConfig) (f : Findings) : Prop :=
  ∀ n ∈ disksOf c, ∃ d ∈ f.disks, d.name = n ∧ counts d = true

/-! ## The look -/

/-- The bundles that are there are counted. -/
theorem succeeds_countCerts_of_tells (hf : Tells h c f) (certs : List EtcdCert) (w : ω) :
    Succeeds h (fun _ => True) (fun count _ => count = certs.countP fun cert =>
      (f.bundle cert).isSome) (countCerts c certs) w := by
  induction certs generalizing w with
  | nil => rfl
  | cons cert rest ih =>
    refine (Succeeds.call (Q := fun _ _ => True) trivial (hf.request _ w) trivial).andThen
      fun _ w₁ _ => ?_
    refine (Succeeds.attempt (Q := fun found _ => found.toOption = f.bundle cert) trivial
      (hf.bundle cert w₁)).andThen fun found w₂ hfound => ?_
    refine (ih w₂).andThen fun count w₃ hcount => ?_
    show (if found.toBool then 1 else 0) + count = _
    have hsame : found.toBool = (f.bundle cert).isSome := by
      rw [← hfound]
      cases found <;> rfl
    rw [List.countP_cons, hcount, hsame, Nat.add_comm]

/-- A resource is found as it is. -/
theorem Finds.succeeds {k : CloudCall} {found : Option k.Answer} (hfound : Finds h c k w found) :
    Succeeds h (fun _ => True) (fun a _ => a = found) (c.group.find? k) w := by
  refine Succeeds.find? trivial ?_ rfl
  cases found with
  | some a => exact hfound
  | none => exact hfound

/-- Making disks succeeds. -/
theorem succeeds_makeDisks_of_tells (hf : Tells h c f) (zones : List String)
    (snapshots : List Snapshot) (made : Nat) (names : List String) (w : ω) :
    Succeeds h (fun _ => True) (fun _ _ => True) (makeDisks c zones snapshots made names) w := by
  induction names generalizing made w with
  | nil => trivial
  | cons name rest ih =>
    obtain ⟨found, hfound⟩ := hf.disk name w
    refine hfound.succeeds.andThen ?_
    rintro found w₁ rfl
    cases found with
    | some d => exact ih made w₁
    | none =>
      dsimp only
      split
      · trivial
      · rename_i zone _
        obtain ⟨operation, hput⟩ := hf.putDisk name (newDisk c zone (contentFor snapshots name)) w₁
        exact (Succeeds.call (Q := fun _ _ => True) trivial hput trivial).andThen fun _ w₂ _ =>
          ih (made + 1) w₂

/-- The missing disks are made. -/
theorem succeeds_ensureDisks_of_tells (hf : Tells h c f) (count : Nat)
    (zones : List String) (w : ω) :
    Succeeds h (fun _ => True) (fun _ _ => True) (ensureDisks c count zones) w := by
  obtain ⟨snapshots, hsnapshots⟩ := hf.snapshots w
  exact (Succeeds.call (Q := fun _ _ => True) trivial hsnapshots trivial).andThen
    fun snapshots w₁ _ =>
    succeeds_makeDisks_of_tells hf zones snapshots 0 (memberDisks count) w₁

/-- The masters of a version that are ready are counted. -/
theorem countP_currentMasters_eq (version : String) (l : List Instance) :
    (currentMasters version l).countP Instance.succeeded =
      l.countP fun v => v.hasTag Tag.operatorVersion version && v.succeeded := by
  unfold currentMasters
  rw [List.countP_filter]
  refine List.countP_congr fun v _ => ?_
  rw [Bool.and_comm]

/-- The disks of the role that are ready are counted. -/
theorem countP_memberDisks_eq (l : List Disk) :
    (l.filter isMemberDisk).countP Disk.succeeded = l.countP counts := by
  rw [List.countP_filter]
  refine List.countP_congr fun d _ => ?_
  unfold counts
  rw [Bool.and_comm]

/-- As many bundles as there are members are all of them. -/
theorem countP_bundles_iff (c : AzureConfig) (f : Findings) :
    ((memberCerts (memberCount c.masterCount)).countP fun cert => (f.bundle cert).isSome) =
        memberCount c.masterCount ↔
      ∀ cert ∈ memberCerts (memberCount c.masterCount), (f.bundle cert).isSome = true := by
  have hlength := length_memberCerts c.masterCount
  constructor
  · intro hcount
    exact List.countP_eq_length.1 (hcount.trans hlength.symm)
  · intro hall
    exact (List.countP_eq_length.2 hall).trans hlength

/-- A look finds everything exactly when everything but disks is there and enough disks count. -/
theorem succeeds_look (hf : Tells h c f) (version : String) (w : ω) :
    Succeeds h (fun _ => True) (fun ready _ => ready = true ↔ Supplied c version f ∧ Counted c f)
      (verifyPrerequisites c version) w := by
  refine (succeeds_countCerts_of_tells hf (memberCerts (memberCount c.masterCount)) w).andThen ?_
  intro certs w₁ hcerts
  refine (hf.scaleSet w₁).succeeds.andThen ?_
  rintro _ w₂ rfl
  cases hscaleSet : f.scaleSet with
  | none =>
    refine ⟨fun hready => ?_, fun hall => ?_⟩
    · cases hready
    · obtain ⟨s, hs, -⟩ := hall.1.scaleSet
      rw [hscaleSet] at hs
      cases hs
  | some s =>
    dsimp only
    by_cases hversion : hasVersion version s = true
    · rw [if_pos hversion]
      have hthere : f.scaleSet ≠ none := by
        rw [hscaleSet]
        exact Option.some_ne_none s
      refine (Succeeds.call (Q := fun l _ => l = f.instances) trivial (hf.instances hthere w₂)
        rfl).andThen ?_
      rintro _ w₃ rfl
      refine (Succeeds.call (Q := fun l _ => l = f.disks) trivial (hf.disks w₃) rfl).andThen ?_
      rintro _ w₄ rfl
      rw [countP_currentMasters_eq, countP_memberDisks_eq]
      by_cases hcounts : f.instances.countP (fun v => v.hasTag Tag.operatorVersion version &&
        v.succeeded) = c.masterCount ∧ f.disks.countP counts = memberCount c.masterCount
      · rw [if_pos hcounts]
        show decide (certs = memberCount c.masterCount) = true ↔ _
        rw [decide_eq_true_iff, hcerts, countP_bundles_iff]
        constructor
        · intro hall
          exact ⟨⟨⟨s, hscaleSet, hversion⟩, hcounts.1, hall⟩, hcounts.2⟩
        · intro hall
          exact hall.1.certs
      · rw [if_neg hcounts]
        refine (succeeds_ensureDisks_of_tells hf _ _ w₄).andThen fun _ w₅ _ => ?_
        refine ⟨fun hready => ?_, fun hall => ?_⟩
        · cases hready
        · exact absurd ⟨hall.1.masters, hall.2⟩ hcounts
    · rw [if_neg hversion]
      refine ⟨fun hready => ?_, fun hall => ?_⟩
      · cases hready
      · obtain ⟨s', hs', hversion'⟩ := hall.1.scaleSet
        rw [hscaleSet] at hs'
        cases hs'
        exact absurd hversion' hversion

/-! ## Numbers and names -/

/-- The names of the disks that count. -/
def countedNames (f : Findings) : List String := (f.disks.filter counts).map Disk.name

/-- Whether the disks that count have names of their own, all of which are names of members. -/
structure Unmixed (c : AzureConfig) (f : Findings) : Prop where
  distinct : (countedNames f).Nodup
  members : ∀ n ∈ countedNames f, n ∈ disksOf c

/-- The disk of a member counts when there is one of its name that does. -/
theorem mem_countedNames {n : String} :
    n ∈ countedNames f ↔ ∃ d ∈ f.disks, d.name = n ∧ counts d = true := by
  unfold countedNames
  rw [List.mem_map]
  constructor
  · rintro ⟨d, hd, hname⟩
    obtain ⟨hlisted, hcounts⟩ := List.mem_filter.1 hd
    exact ⟨d, hlisted, hname, hcounts⟩
  · rintro ⟨d, hlisted, hname, hcounts⟩
    exact ⟨d, List.mem_filter.2 ⟨hlisted, hcounts⟩, hname⟩

/-- When no other disks count, as many as there are members are the disks of all members. -/
theorem counted_iff_named (hf : Unmixed c f) : Counted c f ↔ Named c f := by
  have hlength : Counted c f ↔ (countedNames f).length = (disksOf c).length := by
    unfold Counted countedNames
    rw [List.countP_eq_length_filter, List.length_map, length_disksOf]
  have hsubset : Named c f ↔ disksOf c ⊆ countedNames f := by
    constructor
    · intro hnamed n hn
      exact mem_countedNames.2 (hnamed n hn)
    · intro hsub n hn
      exact mem_countedNames.1 (hsub hn)
  rw [hlength, hsubset]
  constructor
  · intro heq
    exact subset_of_length_le hf.distinct hf.members (Nat.le_of_eq heq.symm)
  · intro hsub
    have hle := (List.subperm_of_subset hf.distinct hf.members).length_le
    have hge := (List.subperm_of_subset (nodup_disksOf c) hsub).length_le
    exact Nat.le_antisymm hle hge

/-! ## The answer of a look -/

/-- A look ends well, and it finds everything exactly when the scale set is of the version, as many
listed instances as there are masters are of the version and ready, as many listed disks as there
are members have the role and are ready, and every member has its bundle. When the disks that have
the role and are ready have names of their own, all of them names of members, their number is right
exactly when each member has its disk. -/
theorem verifies_iff (hf : Tells h c f) (version : String) (w : ω) :
    (∃ ready, (run h (verifyPrerequisites c version) w).1 = .ok ready ∧
      (ready = true ↔ Supplied c version f ∧ Counted c f)) ∧
    (Unmixed c f → (Counted c f ↔ Named c f)) := by
  obtain ⟨ready, hresult, hready, -⟩ := (succeeds_look hf version w).run
  exact ⟨⟨ready, hresult, hready⟩, counted_iff_named⟩

/-- A handler that gives the answers to everything that a look asks. -/
def teller (f : Findings) : Handler Unit where
  answer
    | .ensureCertConfig _, w => (.ok (), w)
    | .findBundle _ cert, w => (match f.bundle cert with
      | some tls => .ok tls
      | none => .error (.notFound cert.name), w)
    | .cloud _ _ (.getScaleSet name), w => (Subscription.orMissing f.scaleSet name, w)
    | .cloud _ _ (.listInstances _), w => (.ok f.instances, w)
    | .cloud _ _ .listDisks, w => (.ok f.disks, w)
    | call, w => ((World.handler.answer call { template := .null }).1, w)
  note _ w := w

/-- Any answers are given by some handler. -/
theorem tells_teller (c : AzureConfig) (f : Findings) : Tells (teller f) c f where
  request _ _ := rfl
  bundle cert w := by
    show Except.toOption (match f.bundle cert with | some tls => Except.ok tls | none => _) = _
    cases f.bundle cert <;> rfl
  scaleSet w := by
    show Finds (teller f) c (.getScaleSet (Name.masterScaleSet c.clusterId)) w f.scaleSet
    have hanswer : ((teller f).answer (.cloud c.group.account c.group.name
        (.getScaleSet (Name.masterScaleSet c.clusterId))) w).1 =
          Subscription.orMissing f.scaleSet (Name.masterScaleSet c.clusterId) := rfl
    cases hscaleSet : f.scaleSet with
    | some s =>
      rw [hscaleSet] at hanswer
      exact hanswer
    | none =>
      rw [hscaleSet] at hanswer
      exact ⟨_, rfl, hanswer⟩
  instances _ _ := rfl
  disks _ := rfl
  snapshots _ := ⟨_, rfl⟩
  disk _ _ := ⟨none, _, rfl, rfl⟩
  putDisk _ _ _ := ⟨_, rfl⟩

/-- A small cluster where nothing is missing but disks. -/
def smallFindings (disks : List Disk) : Findings :=
  let version : Dict String := Dict.empty.insert Tag.operatorVersion "1.0.0"
  { scaleSet := some { location := "westeurope", tags := version }
    instances :=
      [{ instanceId := "0", tags := version, provisioningState := some provisioningSucceeded }]
    disks := disks
    bundle := fun _ => some ⟨"ca", "crt", "key"⟩ }

/-- Nothing but disks is missing there. -/
theorem supplied_smallFindings (disks : List Disk) :
    Supplied smallCluster "1.0.0" (smallFindings disks) where
  scaleSet := ⟨_, rfl, by decide +kernel⟩
  masters := by
    show List.countP _ [_] = 1
    decide +kernel
  certs _ _ := rfl

/-- The member's disk is found by its number. -/
theorem verifies_iff_small :
    Tells (teller (smallFindings [strandedDisk])) smallCluster (smallFindings [strandedDisk]) ∧
      (run (teller (smallFindings [strandedDisk])) (verifyPrerequisites smallCluster "1.0.0")
        ()).1 = .ok true ∧
      Named smallCluster (smallFindings [strandedDisk]) := by
  have htells := tells_teller smallCluster (smallFindings [strandedDisk])
  obtain ⟨⟨ready, hresult, hready⟩, hnames⟩ := verifies_iff htells "1.0.0" ()
  have hcounted : Counted smallCluster (smallFindings [strandedDisk]) := by
    show List.countP _ [_] = _
    decide +kernel
  have hunmixed : Unmixed smallCluster (smallFindings [strandedDisk]) := by
    have hnames : countedNames (smallFindings [strandedDisk]) = ["etcd1"] := by decide +kernel
    constructor
    · rw [hnames]
      decide
    · rw [hnames]
      decide +kernel
  have hsupplied := supplied_smallFindings [strandedDisk]
  rw [hready.2 ⟨hsupplied, hcounted⟩] at hresult
  exact ⟨htells, hresult, (hnames hunmixed).1 hcounted⟩

/-- A disk of the role that is no member's changes the answer: with it there are too many, although
each member has its disk. -/
theorem not_verifies_named : ¬ ∀ (ω : Type) (h : Handler ω) (c : AzureConfig) (version : String)
    (f : Findings) (w : ω), 0 < c.masterCount → Tells h c f →
    ∃ ready, (run h (verifyPrerequisites c version) w).1 = .ok ready ∧
      (ready = true ↔ Supplied c version f ∧ Named c f) := by
  intro hclaim
  let stray : Disk := { strandedDisk with name? := some "data" }
  let f := smallFindings [strandedDisk, stray]
  obtain ⟨ready, hresult, hready⟩ :=
    hclaim Unit (teller f) smallCluster "1.0.0" f () (by decide) (tells_teller smallCluster f)
  have hnamed : Named smallCluster f := by
    intro n hn
    have hone : disksOf smallCluster = ["etcd1"] := by decide +kernel
    rw [hone, List.mem_singleton] at hn
    exact ⟨strandedDisk, List.mem_cons_self, hn.symm, by decide +kernel⟩
  have hrefuses : (run (teller f) (verifyPrerequisites smallCluster "1.0.0") ()).1 =
      .ok false := rfl
  rw [hready.2 ⟨supplied_smallFindings _, hnamed⟩, hrefuses] at hresult
  cases hresult

end TenantFleet.Etcd
