/-
# What a pass over the members needs

Where nothing is missing but disks, and nothing fails but a step of a move, a pass first counts what
is there. It goes on when all disks are ready; otherwise it makes the missing ones, as long as a
zone is left for them.

* `World.moving` : a world in memory where a step of a move may fail;
* `abortedAt` : the step that a pass has failed at;
* `Equipped` : that nothing fails and nothing is missing but disks;
* `Filled` : that missing disks were made;
* `moving_verifyPrerequisites` : the first half of a pass.
-/
import TenantFleet.Proofs.Etcd.Preservation

namespace TenantFleet

open Program Program.Safe

/-! ## Moves that fail -/

/-- Whether a call is a step of the move of a disk. -/
def Call.moves : Call → Bool
  | .cloud _ _ (.putDisk _ value) => !Etcd.isMemberDisk value
  | .cloud _ _ (.putSnapshot _ _) | .cloud _ _ (.deleteDisk _) | .cloud _ _ (.wait _) => true
  | _ => false

/-- A world in memory where a step of a move may fail, without effect but on the record of
requests. -/
def World.moving : Surroundings World where
  answers c w r w' := (r, w') = World.answer c w ∨
    (c.moves = true ∧ (∃ e, r = .error e) ∧
      ∃ log, w' = { w with cluster := { w.cluster with log := log } })
  note := World.handler.note

namespace Etcd

/-- A step of the move of a disk. -/
inductive MoveStep
  | hide
  | awaitHiding
  | copy
  | awaitCopy
  | delete
  | awaitDeletion
  deriving DecidableEq

/-- Whether a disk is hidden and still there when a step fails. -/
def MoveStep.strands : MoveStep → Bool
  | .hide | .awaitDeletion => false
  | _ => true

/-- The disk that a snapshot is tagged with. -/
def sourceOf (x : Snapshot) : String := (x.tags.get? Tag.snapshotDisk).getD ""

/-- The step of a move that a request is, and the disk. -/
def begun : Call → Option (MoveStep × String)
  | .cloud _ _ (.putDisk disk value) => if isMemberDisk value then none else some (.hide, disk)
  | .cloud _ _ (.putSnapshot _ x) => some (.copy, sourceOf x)
  | .cloud _ _ (.deleteDisk disk) => some (.delete, disk)
  | _ => none

/-- The step of a move that waits for the end of a request, and the disk. -/
def awaited : Call → Option (MoveStep × String)
  | .cloud _ _ (.putDisk disk _) => some (.awaitHiding, disk)
  | .cloud _ _ (.putSnapshot _ x) => some (.awaitCopy, sourceOf x)
  | .cloud _ _ (.deleteDisk disk) => some (.awaitDeletion, disk)
  | _ => none

/-- The step of a move that the last call of a pass failed at, and the disk. -/
def abortedAt (asked : List Asked) : Option (MoveStep × String) :=
  match asked.reverse with
  | ⟨.cloud _ _ (.wait _), .error _⟩ :: before :: _ => awaited before.call
  | ⟨last, .error _⟩ :: _ => begun last
  | _ => none

variable {c : AzureConfig} {version : String} {asked : List Asked} {w w' w'' : World}
  {s s' : Subscription} {n : String} {step : MoveStep} {call : Call}

/-- A call that is answered is no step that failed. -/
theorem abortedAt_ok (asked : List Asked) (call : Call) (a : call.Answer) :
    abortedAt (asked ++ [⟨call, .ok a⟩]) = none := by
  unfold abortedAt
  rw [List.reverse_append]
  cases call with
  | cloud account group k => cases k <;> rfl
  | _ => rfl

/-- A request that fails is the step it is. -/
theorem abortedAt_error (asked : List Asked) (hcall : begun call = some (step, n))
    (e : call.Failure) :
    abortedAt (asked ++ [⟨call, .error e⟩]) = some (step, n) := by
  rw [← hcall]
  unfold abortedAt
  rw [List.reverse_append]
  cases call with
  | cloud account group k =>
    cases k with
    | wait operation => cases hcall
    | _ => rfl
  | _ => rfl

/-- A wait that fails is the step that waits for the request before it. -/
theorem abortedAt_wait (asked : List Asked) (hcall : awaited call = some (step, n))
    (a : call.Answer)
    (account : Account) (group : String) (operation : Operation) (e : AzureError) :
    abortedAt (asked ++ [⟨call, .ok a⟩] ++ [⟨.cloud account group (.wait operation), .error e⟩]) =
      some (step, n) := by
  unfold abortedAt
  rw [List.reverse_append, List.reverse_append]
  exact hcall

/-- A call that is no step of a move is none that failed. -/
theorem abortedAt_of_not_moves (asked : List Asked) (hcall : call.moves = false)
    (r : Except call.Failure call.Answer) : abortedAt (asked ++ [⟨call, r⟩]) = none := by
  cases r with
  | ok a => exact abortedAt_ok asked call a
  | error e =>
    unfold abortedAt
    rw [List.reverse_append]
    cases call with
    | cloud account group k =>
      cases k with
      | putDisk disk value =>
        have hmember : isMemberDisk value = true := by simpa [Call.moves] using hcall
        exact if_pos hmember
      | putSnapshot name x => cases hcall
      | deleteDisk disk => cases hcall
      | wait operation => cases hcall
      | _ => rfl
    | _ => rfl

/-! ## What a pass needs -/

/-- The masters of a cluster. -/
def mastersIn (c : AzureConfig) (s : Subscription) : List Instance :=
  s.instancesOf (Name.masterScaleSet c.clusterId)

/-- The names of the disks of all members of a cluster. -/
def disksOf (c : AzureConfig) : List String := memberDisks (memberCount c.masterCount)

@[simp] theorem length_disksOf (c : AzureConfig) : (disksOf c).length = memberCount c.masterCount :=
  length_memberDisks _

/-- Whether nothing fails in a world, and nothing but disks is missing for the members of a
cluster. -/
structure Equipped (c : AzureConfig) (version : String) (w : World) : Prop where
  calm : w.failures = .empty
  cloudCalm : w.cluster.failures = .empty
  /-- What is made is ready at once. -/
  newState : w.cluster.newState = provisioningSucceeded
  scaleSet : ∃ m, w.cluster.scaleSets.get? (Name.masterScaleSet c.clusterId) = some m ∧
    hasVersion version m = true
  masters : ∀ v ∈ mastersIn c w.cluster, v.succeeded = true ∧
    v.hasTag Tag.operatorVersion version = true
  count : (mastersIn c w.cluster).length = c.masterCount
  certs : ∀ cert ∈ memberCerts (memberCount c.masterCount),
    ∃ tls, Table.at? w.bundles c.clusterId cert.name = some tls

/-- Whether two worlds differ in what a pass neither needs nor makes. -/
structure Beside (w w' : World) : Prop where
  failures : w'.failures = w.failures
  cloudFailures : w'.cluster.failures = w.cluster.failures
  newState : w'.cluster.newState = w.cluster.newState
  scaleSets : w'.cluster.scaleSets = w.cluster.scaleSets
  instances : w'.cluster.instances = w.cluster.instances
  bundles : w'.bundles = w.bundles

namespace Beside

theorem refl (w : World) : Beside w w := ⟨rfl, rfl, rfl, rfl, rfl, rfl⟩

theorem trans (h : Beside w w') (h' : Beside w' w'') : Beside w w'' :=
  ⟨h'.failures.trans h.failures, h'.cloudFailures.trans h.cloudFailures,
    h'.newState.trans h.newState,
    h'.scaleSets.trans h.scaleSets, h'.instances.trans h.instances, h'.bundles.trans h.bundles⟩

theorem mastersIn (h : Beside w w') (c : AzureConfig) :
    mastersIn c w'.cluster = mastersIn c w.cluster := by
  unfold Etcd.mastersIn Subscription.instancesOf
  rw [h.instances]

/-- What a pass needs is still there. -/
theorem equipped (h : Beside w w') (hw : Equipped c version w) : Equipped c version w' where
  calm := h.failures.trans hw.calm
  cloudCalm := h.cloudFailures.trans hw.cloudCalm
  newState := h.newState.trans hw.newState
  scaleSet := by
    rw [h.scaleSets]
    exact hw.scaleSet
  masters := by
    rw [h.mastersIn]
    exact hw.masters
  count := by
    rw [h.mastersIn]
    exact hw.count
  certs := by
    rw [h.bundles]
    exact hw.certs

end Beside

/-- Whether two worlds differ neither in that nor in the disks. -/
structure Alike (w w' : World) : Prop extends Beside w w' where
  disks : w'.cluster.disks = w.cluster.disks

namespace Alike

theorem refl (w : World) : Alike w w := ⟨.refl w, rfl⟩

theorem trans (h : Alike w w') (h' : Alike w' w'') : Alike w w'' :=
  ⟨h.toBeside.trans h'.toBeside, h'.disks.trans h.disks⟩

end Alike

/-! ## Calls that leave the stock -/

/-- Whether a request leaves masters and disks. -/
def keepsStock : CloudCall → Prop
  | .putDisk _ _ | .deleteDisk _ | .putInstance _ _ _ | .putScaleSet _ _ | .updateInstances _ _
  | .deleteInstances _ _ => False
  | _ => True

/-- Whether a call is no step of a move, and leaves masters and disks. -/
def Looks : Call → Prop
  | .cloud account group k => keepsStock k ∧ (Call.cloud account group k).moves = false
  | .ensureCertConfig _ | .findBundle _ _ => True
  | _ => False

/-- Performing such a request, when it was written down. -/
theorem alike_perform (w : World) (group : String) {k : CloudCall} (hk : keepsStock k) :
    Alike w { w with cluster := ((w.cluster.logged k).perform group k).2 } := by
  cases k with
  | putDisk name value => exact hk.elim
  | deleteDisk name => exact hk.elim
  | putInstance scaleSet inst value => exact hk.elim
  | putScaleSet name value => exact hk.elim
  | updateInstances scaleSet ids => exact hk.elim
  | deleteInstances scaleSet ids => exact hk.elim
  | _ => exact ⟨⟨rfl, rfl, rfl, rfl, rfl, rfl⟩, rfl⟩

/-- A request is performed, or is a step of a move that fails. -/
theorem turn_cases {secret : SecretRef} {group : String} {k : CloudCall}
    {r : Except AzureError k.Answer} (hw : w.cluster.failures = .empty)
    (turn : World.moving.answers (.cloud (.cluster secret) group k) w r w') :
    (r = ((w.cluster.logged k).perform group k).1 ∧
        w' = { w with cluster := ((w.cluster.logged k).perform group k).2 }) ∨
      ((Call.cloud (.cluster secret) group k).moves = true ∧ (∃ e, r = .error e) ∧ Alike w w') := by
  rcases turn with hanswer | hfails
  · have hcalm : (w.subscription (.cluster secret)).failures = .empty := hw
    rw [World.answer_cloud_of_steady hcalm] at hanswer
    obtain ⟨rfl, rfl⟩ := Prod.mk.inj hanswer
    exact Or.inl ⟨rfl, rfl⟩
  · obtain ⟨hmoves, hr, log, rfl⟩ := hfails
    exact Or.inr ⟨hmoves, hr, ⟨rfl, rfl, rfl, rfl, rfl, rfl⟩, rfl⟩

/-- A look leaves what a pass needs, and the disks. -/
theorem alike_of_looks {call : Call} {r : Except call.Failure call.Answer} (hcall : Looks call)
    (hw : Equipped c version w) (turn : World.moving.answers call w r w') : Alike w w' := by
  cases call with
  | cloud account group k =>
    cases account with
    | cluster secret =>
      rcases turn_cases hw.cloudCalm turn with ⟨-, rfl⟩ | ⟨-, -, halike⟩
      · exact alike_perform w group hcall.1
      · exact halike
    | controlPlane =>
      rcases turn with hanswer | ⟨-, -, log, rfl⟩
      · obtain ⟨-, rfl⟩ := Prod.mk.inj hanswer
        exact ⟨⟨rfl, rfl, rfl, rfl, rfl, rfl⟩, rfl⟩
      · exact ⟨⟨rfl, rfl, rfl, rfl, rfl, rfl⟩, rfl⟩
  | ensureCertConfig config =>
    rcases turn with hanswer | ⟨hmoves, -, -⟩
    · rw [World.answer_of_steady hw.calm (by rintro _ _ _ ⟨⟩)] at hanswer
      obtain ⟨-, rfl⟩ := Prod.mk.inj hanswer
      show Alike w ((w.record _).ensureCertConfig config)
      unfold World.ensureCertConfig
      dsimp only
      split <;> exact ⟨⟨rfl, rfl, rfl, rfl, rfl, rfl⟩, rfl⟩
    · cases hmoves
  | findBundle clusterId cert =>
    rcases turn with hanswer | ⟨hmoves, -, -⟩
    · rw [World.answer_of_steady hw.calm (by rintro _ _ _ ⟨⟩)] at hanswer
      obtain ⟨-, rfl⟩ := Prod.mk.inj hanswer
      show Alike w ((w.record (.findBundle clusterId cert)).perform (.findBundle clusterId cert)).2
      unfold World.perform
      dsimp only
      split <;> exact ⟨⟨rfl, rfl, rfl, rfl, rfl, rfl⟩, rfl⟩
    · cases hmoves
  | _ => exact hcall.elim

/-! ## Requests that are answered -/

section Answered

variable {k : CloudCall} {F : List Asked → World → Prop}

/-- A request that is a look is answered. -/
theorem moving_request {a : k.Answer} {Q : List Asked → World → k.Answer → Prop}
    (hw : Equipped c version w) (hk : Looks (.cloud c.group.account c.group.name k))
    (ha : ((w.cluster.logged k).perform c.group.name k).1 = .ok a)
    (hQ : ∀ asked w', Alike w w' → abortedAt asked = none → Q asked w' a) :
    Safe World.moving .none (Ends Q F) (c.group.call k) asked w := by
  refine callEnds trivial trivial fun r w' turn => ?_
  have halike := alike_of_looks hk hw turn
  rcases turn_cases hw.cloudCalm turn with ⟨hr, -⟩ | ⟨hmoves, -, -⟩
  · rw [ha] at hr
    subst hr
    refine ⟨trivial, fun a' ha' => ?_, fun e he => by cases he⟩
    cases ha'
    exact hQ _ _ halike (abortedAt_ok _ _ _)
  · cases hmoves.symm.trans hk.2

/-- A resource is found when it is there. -/
theorem moving_find? (found : Option k.Answer) (what : String)
    {Q : List Asked → World → Option k.Answer → Prop} (hw : Equipped c version w)
    (hk : Looks (.cloud c.group.account c.group.name k))
    (hfound : ((w.cluster.logged k).perform c.group.name k).1 = Subscription.orMissing found what)
    (hQ : ∀ asked w', Alike w w' → abortedAt asked = none → Q asked w' found) :
    Safe World.moving .none (Ends Q F) (c.group.find? k) asked w := by
  refine findEnds trivial trivial fun r w' turn => ?_
  have halike := alike_of_looks hk hw turn
  have hnone : abortedAt (asked ++ [⟨.cloud c.group.account c.group.name k, r⟩]) = none :=
    abortedAt_of_not_moves asked hk.2 r
  rcases turn_cases hw.cloudCalm turn with ⟨hr, -⟩ | ⟨hmoves, -, -⟩
  · rw [hfound] at hr
    refine ⟨trivial, fun a ha => ?_, fun e he => ?_⟩
    · cases found with
      | none =>
        rw [ha] at hr
        cases hr
      | some b =>
        rw [ha] at hr
        cases hr
        exact hQ _ _ halike hnone
    · cases found with
      | none =>
        rw [he] at hr
        cases hr
        exact hQ _ _ halike hnone
      | some b =>
        rw [he] at hr
        cases hr
  · cases hmoves.symm.trans hk.2

end Answered

/-! ## Counting certificates -/

/-- Certificates that are there are counted. -/
theorem moving_countCerts {F : List Asked → World → Prop} {certs : List EtcdCert}
    (hw : Equipped c version w) (hnone : abortedAt asked = none)
    (hcerts : ∀ cert ∈ certs, ∃ tls, Table.at? w.bundles c.clusterId cert.name = some tls) :
    Safe World.moving .none
      (Ends (fun asked w' count => count = certs.length ∧ Alike w w' ∧ abortedAt asked = none) F)
      (countCerts c certs) asked w := by
  induction certs generalizing asked w with
  | nil => exact Safe.pure trivial ⟨rfl, .refl w, hnone⟩
  | cons cert rest ih =>
    refine Safe.andThen (Q := fun _ w' _ => Alike w w')
      (callEnds trivial trivial fun r w₁ turn => ?_) ?_
    · have halike := alike_of_looks (by trivial) hw turn
      refine ⟨trivial, fun _ _ => halike, fun e he => ?_⟩
      rcases turn with hanswer | ⟨hmoves, -, -⟩
      · rw [World.answer_of_steady hw.calm (by rintro _ _ _ ⟨⟩)] at hanswer
        cases (Prod.mk.inj hanswer).1.symm.trans he
      · cases hmoves
    intro asked₁ w₁ _ _ halike₁
    have hw₁ := halike₁.equipped hw
    refine Safe.andThen (Q := fun asked w' found =>
        found.toBool = true ∧ Alike w₁ w' ∧ abortedAt asked = none)
      (Safe.attempt trivial trivial fun r w₂ turn => ?_) ?_
    · have halike := alike_of_looks (by trivial) hw₁ turn
      refine ⟨trivial, ?_, halike, abortedAt_of_not_moves asked₁ rfl r⟩
      rcases turn with hanswer | ⟨hmoves, -, -⟩
      · rw [World.answer_of_steady hw₁.calm (by rintro _ _ _ ⟨⟩)] at hanswer
        obtain ⟨tls, htls⟩ := hcerts cert List.mem_cons_self
        rw [← halike₁.bundles] at htls
        have hr : r = .ok tls := by
          refine (Prod.mk.inj hanswer).1.trans ?_
          show ((w₁.record (.findBundle c.clusterId cert)).perform
              (.findBundle c.clusterId cert)).1 = _
          unfold World.perform
          have hrecord :
              Table.at? (w₁.record (.findBundle c.clusterId cert)).bundles c.clusterId cert.name =
              some tls := htls
          dsimp only
          rw [hrecord]
        rw [hr]
        rfl
      · cases hmoves
    rintro asked₂ w₂ found - ⟨hfound, halike₂, hnone₂⟩
    have hsame := halike₁.trans halike₂
    refine (ih (hsame.equipped hw) hnone₂ ?_).andThen ?_
    · intro cert' hcert'
      rw [hsame.bundles]
      exact hcerts cert' (List.mem_cons_of_mem _ hcert')
    · rintro asked₃ w₃ count - ⟨hcount, halike₃, hnone₃⟩
      refine Safe.pure trivial ⟨?_, hsame.trans halike₃, hnone₃⟩
      rw [if_pos hfound, hcount, List.length_cons, Nat.add_comm]

/-! ## Disks -/

/-- Whether the disk of a name is a member's, and ready. -/
def Ready (s : Subscription) (n : String) : Prop :=
  ∃ d, s.disks.get? n = some d ∧ isMemberDisk d = true ∧ d.succeeded = true

instance (s : Subscription) (n : String) : Decidable (Ready s n) :=
  decidable_of_iff ((s.disks.get? n).any (fun d => isMemberDisk d && d.succeeded) = true) (by
    unfold Ready
    cases s.disks.get? n <;> simp)

/-- Whether the disk of a name is there, but not known as a member's. -/
def Hidden (s : Subscription) (n : String) : Prop :=
  ∃ d, s.disks.get? n = some d ∧ isMemberDisk d = false

/-- Whether missing disks of some names were made, and nothing else has changed. -/
structure Filled (names : List String) (w w' : World) : Prop extends Beside w w' where
  made : ∀ n ∈ names, w.cluster.disks.get? n = none → Ready w'.cluster n
  kept : ∀ n d, w.cluster.disks.get? n = some d → w'.cluster.disks.get? n = some d
  others : ∀ n, n ∉ names → w'.cluster.disks.get? n = w.cluster.disks.get? n
  named : ∀ n d, w'.cluster.disks.get? n = some d → w.cluster.disks.get? n = some d ∨ d.name = n

/-- A disk that is made anew. -/
theorem get?_putDisk_of_none (group : String) (value : Disk) (h : s.disks.get? n = none) :
    (s.putDisk group n value).disks.get? n = some { value with
      name? := some n
      id := some (diskId s.id group n)
      provisioningState := some s.newState } := by
  unfold Subscription.putDisk
  dsimp only
  rw [Dict.get?_insert_self, h]

/-- A disk that is there keeps its owner and its state. -/
theorem get?_putDisk_of_some (group : String) (value : Disk) {d : Disk}
    (h : s.disks.get? n = some d) : (s.putDisk group n value).disks.get? n = some { value with
      name? := some n
      id := some (diskId s.id group n)
      managedBy := d.managedBy
      provisioningState := d.provisioningState } := by
  unfold Subscription.putDisk
  dsimp only
  rw [Dict.get?_insert_self, h]

/-- Writing a disk leaves the others. -/
theorem get?_putDisk_of_ne {group m : String} {value : Disk} (h : m ≠ n) :
    (s.putDisk group m value).disks.get? n = s.disks.get? n :=
  Dict.get?_insert_of_ne _ _ h

/-- Making one disk. -/
theorem filled_putDisk (hw : Equipped c version w) (zone : String) (content : CreationData)
    (hmissing : w.cluster.disks.get? n = none) (group : String) :
    Filled [n] w { w with
      cluster := (w.cluster.logged (.putDisk n (newDisk c zone content))).putDisk group n
        (newDisk c zone content) } where
  toBeside := ⟨rfl, rfl, rfl, rfl, rfl, rfl⟩
  made m hm _ := by
    obtain rfl := List.mem_singleton.1 hm
    refine ⟨_, get?_putDisk_of_none _ _ hmissing, rfl, ?_⟩
    exact decide_eq_true (congrArg some hw.newState)
  kept m d hd := by
    have hne : n ≠ m := by
      rintro rfl
      rw [hmissing] at hd
      cases hd
    exact (get?_putDisk_of_ne hne).trans hd
  others m hm := get?_putDisk_of_ne fun heq => hm (List.mem_singleton.2 heq.symm)
  named m d hd := by
    by_cases heq : n = m
    · subst heq
      cases (get?_putDisk_of_none _ _ hmissing).symm.trans hd
      exact Or.inr rfl
    · exact Or.inl ((get?_putDisk_of_ne heq).symm.trans hd)

namespace Filled

variable {names rest : List String}

/-- Nothing is missing of no names. -/
theorem of_alike (h : Alike w w') (hthere : ∀ n ∈ names, w.cluster.disks.get? n ≠ none) :
    Filled names w w' where
  toBeside := h.toBeside
  made n hn hmissing := absurd hmissing (hthere n hn)
  kept n d hd := by
    rw [h.disks]
    exact hd
  others n _ := by rw [h.disks]
  named n d hd := by
    rw [h.disks] at hd
    exact Or.inl hd

/-- Disks that are made in two steps. -/
theorem append (h : Filled names w w') (h' : Filled rest w' w'') :
    Filled (names ++ rest) w w'' where
  toBeside := h.toBeside.trans h'.toBeside
  made n hn hmissing := by
    by_cases hfirst : n ∈ names
    · obtain ⟨d, hd, hready⟩ := h.made n hfirst hmissing
      exact ⟨d, h'.kept n d hd, hready⟩
    · refine h'.made n ((List.mem_append.1 hn).resolve_left hfirst) ?_
      rw [h.others n hfirst]
      exact hmissing
  kept n d hd := h'.kept n d (h.kept n d hd)
  others n hn := by
    have hfirst : n ∉ names := fun h => hn (List.mem_append_left _ h)
    have hrest : n ∉ rest := fun h => hn (List.mem_append_right _ h)
    rw [h'.others n hrest, h.others n hfirst]
  named n d hd := (h'.named n d hd).elim (h.named n d) Or.inr

end Filled

/-- Missing disks are made as long as there are zones. -/
theorem moving_makeDisks {F : List Asked → World → Prop} {zones : List String} (hzones : zones ≠ [])
    (snapshots : List Snapshot) (made : Nat) (names : List String) (hw : Equipped c version w)
    (hnone : abortedAt asked = none) :
    Safe World.moving .none
      (Ends (fun asked w' _ => Filled names w w' ∧ abortedAt asked = none) F)
      (makeDisks c zones snapshots made names) asked w := by
  induction names generalizing made asked w with
  | nil => exact Safe.pure trivial ⟨.of_alike (.refl w) fun _ h => (by cases h), hnone⟩
  | cons n rest ih =>
    -- Whatever becomes of the first disk, the others are made behind it.
    have hrest : ∀ made asked₁ w₁, Filled [n] w w₁ → abortedAt asked₁ = none →
        Safe World.moving .none
          (Ends (fun asked w' _ => Filled (n :: rest) w w' ∧ abortedAt asked = none) F)
          (makeDisks c zones snapshots made rest) asked₁ w₁ := by
      intro made asked₁ w₁ hfirst hnone₁
      refine (ih made (hfirst.equipped hw) hnone₁).mono ?_
      rintro _ _ (e | _) _ hend
      · exact hend
      · exact ⟨hfirst.append hend.1, hend.2⟩
    rw [makeDisks]
    refine (moving_find? (k := .getDisk n)
      (Q := fun asked w' found => found = w.cluster.disks.get? n ∧ Alike w w' ∧
        abortedAt asked = none) _ _
      hw ⟨trivial, rfl⟩ rfl fun _ _ halike hnone => ⟨rfl, halike, hnone⟩).andThen ?_
    rintro asked₁ w₁ found - ⟨hfound, halike₁, hnone₁⟩
    have hw₁ := halike₁.equipped hw
    cases found with
    | some d =>
      refine hrest made asked₁ w₁ (.of_alike halike₁ fun m hm hmissing => ?_) hnone₁
      rw [List.mem_singleton.1 hm, ← hfound] at hmissing
      cases hmissing
    | none =>
      dsimp only
      have hzone : made % zones.length < zones.length := Nat.mod_lt _ (List.length_pos_iff.2 hzones)
      rw [List.getElem?_eq_getElem hzone]
      refine Safe.andThen (Q := fun asked w₂ _ => Filled [n] w w₂ ∧ abortedAt asked = none)
        (callEnds trivial trivial fun r w₂ turn => ?_) ?_
      · rcases turn_cases hw₁.cloudCalm turn with ⟨rfl, rfl⟩ | ⟨hmoves, -, -⟩
        · refine ⟨trivial, fun operation _ => ?_, fun e he => by cases he⟩
          have hmissing : w₁.cluster.disks.get? n = none := by
            rw [halike₁.disks, ← hfound]
          have hfilled := filled_putDisk hw₁ zones[made % zones.length]
            (contentFor snapshots n) hmissing
            c.clusterId
          have hnothing : Filled [] w w₁ := .of_alike halike₁ fun _ h => by cases h
          exact ⟨hnothing.append hfilled, abortedAt_ok _ _ _⟩
        · cases hmoves
      · rintro asked₂ w₂ - - ⟨hfilled, hnone₂⟩
        exact hrest (made + 1) asked₂ w₂ hfilled hnone₂

/-- Without zones no disk is made. -/
theorem alike_makeDisks {F : List Asked → World → Prop} (snapshots : List Snapshot) (made : Nat)
    (names : List String) (hw : Equipped c version w) (hnone : abortedAt asked = none) :
    Safe World.moving .none
      (Ends (fun asked w' _ => Alike w w' ∧ abortedAt asked = none) F)
      (makeDisks c [] snapshots made names) asked w := by
  induction names generalizing asked w with
  | nil => exact Safe.pure trivial ⟨.refl w, hnone⟩
  | cons n rest ih =>
    rw [makeDisks]
    refine (moving_find? (k := .getDisk n)
      (Q := fun asked w' _ => Alike w w' ∧ abortedAt asked = none) _ _ hw ⟨trivial, rfl⟩ rfl
      fun _ _ halike hnone => ⟨halike, hnone⟩).andThen ?_
    rintro asked₁ w₁ found - ⟨halike₁, hnone₁⟩
    cases found with
    | some d =>
      refine (ih (halike₁.equipped hw) hnone₁).mono ?_
      rintro _ _ (e | _) _ hend
      · exact hend
      · exact ⟨halike₁.trans hend.1, hend.2⟩
    | none => exact Safe.pure trivial ⟨halike₁, hnone₁⟩

/-! ## Looking whether everything is there -/

/-- Whether as many disks are ready as the cluster has members. -/
def Full (c : AzureConfig) (s : Subscription) : Prop :=
  (s.disks.values.filter isMemberDisk).countP Disk.succeeded = memberCount c.masterCount

/-- The zones in which missing disks are made. -/
def zonesLeft (c : AzureConfig) (version : String) (s : Subscription) : List String :=
  difference ((currentMasters version (mastersIn c s)).filterMap Instance.zone)
    ((s.disks.values.filter isMemberDisk).filterMap Disk.zone)

/-- Whether missing disks were made in some zones; without zones nothing was. -/
structure Refilled (c : AzureConfig) (zones : List String) (w w' : World) : Prop where
  nowhere : zones = [] → Alike w w'
  somewhere : zones ≠ [] → Filled (disksOf c) w w'

/-- What was looked at before does not matter. -/
theorem Refilled.after {zones : List String} (h : Refilled c zones w' w'') (halike : Alike w w') :
    Refilled c zones w w'' where
  nowhere hzones := halike.trans (h.nowhere hzones)
  somewhere hzones := by
    have hnothing : Filled [] w w' := .of_alike halike fun _ h => by cases h
    exact hnothing.append (h.somewhere hzones)

/-- Every member has a certificate. -/
theorem length_memberCerts (masters : Nat) :
    (memberCerts (memberCount masters)).length = memberCount masters := by
  have hle : memberCount masters ≤ 3 := Nat.le_trans (memberCount_le masters) (Nat.min_le_right _ _)
  unfold memberCerts
  rw [List.length_take]
  exact Nat.min_eq_left hle

/-- All masters that are there are of the version. -/
theorem currentMasters_mastersIn (hw : Equipped c version w) :
    currentMasters version (mastersIn c w.cluster) = mastersIn c w.cluster :=
  List.filter_eq_self.2 fun v hv => (hw.masters v hv).2

/-- And all of them count. -/
theorem countP_currentMasters (hw : Equipped c version w) :
    (currentMasters version (mastersIn c w.cluster)).countP Instance.succeeded = c.masterCount := by
  rw [currentMasters_mastersIn hw, ← hw.count]
  exact List.countP_eq_length.2 fun v hv => (hw.masters v hv).1

/-- The masters are listed when their scale set is there. -/
theorem perform_listInstances (hw : Equipped c version w) (group : String) :
    ((w.cluster.logged (.listInstances (Name.masterScaleSet c.clusterId))).perform group
      (.listInstances (Name.masterScaleSet c.clusterId))).1 = .ok (mastersIn c w.cluster) := by
  obtain ⟨m, hm, -⟩ := hw.scaleSet
  show Subscription.orMissing ((w.cluster.scaleSets.get? _).map _) _ = _
  rw [hm]
  rfl

/-- Making missing disks. -/
theorem moving_ensureDisks {F : List Asked → World → Prop} (zones : List String)
    (hw : Equipped c version w) :
    Safe World.moving .none
      (Ends (fun asked w' _ => Refilled c zones w w' ∧ abortedAt asked = none) F)
      (ensureDisks c (memberCount c.masterCount) zones) asked w := by
  refine (moving_request (k := .listSnapshots) (Q := fun asked w' _ => Alike w w' ∧
    abortedAt asked = none) hw
    ⟨trivial, rfl⟩ rfl fun _ _ halike hnone => ⟨halike, hnone⟩).andThen ?_
  rintro asked₁ w₁ snapshots - ⟨halike, hnone⟩
  have hw₁ := halike.equipped hw
  by_cases hzones : zones = []
  · subst hzones
    refine (alike_makeDisks (F := F) snapshots 0 _ hw₁ hnone).mono ?_
    rintro _ _ (e | _) _ hend
    · exact hend
    · exact ⟨⟨fun _ => halike.trans hend.1, fun hne => absurd rfl hne⟩, hend.2⟩
  · refine (moving_makeDisks (F := F) hzones snapshots 0 _ hw₁ hnone).mono ?_
    rintro _ _ (e | _) _ hend
    · exact hend
    · have hfilled : Refilled c zones w₁ _ := ⟨fun hnil => absurd hnil hzones, fun _ => hend.1⟩
      exact ⟨hfilled.after halike, hend.2⟩

/-- Where nothing is missing but disks, their count decides; otherwise they are made. -/
theorem moving_verifyPrerequisites {F : List Asked → World → Prop} (hw : Equipped c version w)
    (hnone : abortedAt asked = none) :
    Safe World.moving .none
      (Ends (fun asked w' ready =>
        ((Full c w.cluster ∧ ready = true ∧ Alike w w') ∨
          (¬ Full c w.cluster ∧ ready = false ∧ Refilled c (zonesLeft c version w.cluster) w w')) ∧
        abortedAt asked = none) F)
      (verifyPrerequisites c version) asked w := by
  unfold verifyPrerequisites
  refine (moving_countCerts hw hnone hw.certs).andThen ?_
  rintro asked₁ w₁ certs - ⟨hcerts, halike₁, hnone₁⟩
  have hw₁ := halike₁.equipped hw
  obtain ⟨m, hm, hversion⟩ := hw₁.scaleSet
  refine (moving_find? (k := .getScaleSet (Name.masterScaleSet c.clusterId)) (some m) _
    (Q := fun asked w' found => found = some m ∧ Alike w₁ w' ∧ abortedAt asked = none) hw₁
    ⟨trivial, rfl⟩ (congrArg (Subscription.orMissing · _) hm) fun _ _ halike hnone =>
    ⟨rfl, halike, hnone⟩).andThen ?_
  rintro asked₂ w₂ found - ⟨rfl, halike₂, hnone₂⟩
  dsimp only
  rw [if_pos hversion]
  have hw₂ := halike₂.equipped hw₁
  refine (moving_request (k := .listInstances (Name.masterScaleSet c.clusterId))
    (Q := fun asked w' l => l = mastersIn c w₂.cluster ∧ Alike w₂ w' ∧ abortedAt asked = none) hw₂
    ⟨trivial, rfl⟩ (perform_listInstances hw₂ _) fun _ _ halike hnone =>
      ⟨rfl, halike, hnone⟩).andThen ?_
  rintro asked₃ w₃ l - ⟨rfl, halike₃, hnone₃⟩
  have hw₃ := halike₃.equipped hw₂
  refine (moving_request (k := .listDisks)
    (Q := fun asked w' l => l = w₃.cluster.disks.values ∧ Alike w₃ w' ∧ abortedAt asked = none) hw₃
    ⟨trivial, rfl⟩ rfl fun _ _ halike hnone => ⟨rfl, halike, hnone⟩).andThen ?_
  rintro asked₄ w₄ l - ⟨rfl, halike₄, hnone₄⟩
  -- All of this was about the world that the pass began in.
  have halike : Alike w w₄ := ((halike₁.trans halike₂).trans halike₃).trans halike₄
  have hmasters : mastersIn c w₂.cluster = mastersIn c w.cluster :=
    (halike₁.trans halike₂).mastersIn c
  have hdisks : w₃.cluster.disks = w.cluster.disks := ((halike₁.trans halike₂).trans halike₃).disks
  rw [hmasters, hdisks, countP_currentMasters hw]
  by_cases hfull : Full c w.cluster
  · rw [if_pos ⟨rfl, hfull⟩]
    refine Safe.pure trivial ⟨Or.inl ⟨hfull, ?_, halike⟩, hnone₄⟩
    exact decide_eq_true (hcerts.trans (length_memberCerts _))
  · rw [if_neg fun h => hfull h.2]
    refine (moving_ensureDisks (F := F) (zonesLeft c version w.cluster)
      (halike.equipped hw)).andThen ?_
    rintro asked₅ w₅ - - ⟨hrefilled, hnone₅⟩
    exact Safe.pure trivial ⟨Or.inr ⟨hfull, rfl, hrefilled.after halike⟩, hnone₅⟩
end Etcd

end TenantFleet
