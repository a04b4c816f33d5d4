/-
# What mends after a failed move

A move of a disk that fails is not gone on with: a later pass only makes disks that are missing and
counts those that are ready. So what later passes can mend is decided by the step that has failed. A
disk that was hidden and not yet deleted is neither made nor counted, and stays so.

* `Healed` : that all disks are ready and a look finds everything;
* `afterPasses` : the world after passes in which nothing fails;
* `Mends`, `heals_or_never` : which steps that fail leave something that passes mend.
-/
import Mathlib.Logic.Function.Iterate
import TenantFleet.Proofs.Etcd.Aborted

namespace TenantFleet.Etcd

open Program Program.Safe

variable {α : Type} {c : AzureConfig} {subscription version : String} {asked : List Asked}
  {w w' : World} {s : Subscription} {n : String} {hid : String → Prop} {step : MoveStep}

/-! ## Passes in which nothing fails -/

/-- The world after a pass in which nothing fails. -/
def afterPass (c : AzureConfig) (subscription version : String) (w : World) : World :=
  (run World.handler (ensureMembers c subscription version) w).2

/-- The world after a number of such passes. -/
def afterPasses (c : AzureConfig) (subscription version : String) (count : Nat)
    (w : World) : World :=
  (afterPass c subscription version)^[count] w

theorem afterPasses_succ (count : Nat) (w : World) :
    afterPasses c subscription version (count + 1) w =
    afterPass c subscription version (afterPasses c subscription version count w) :=
  Function.iterate_succ_apply' _ _ _

/-- Whether all disks of the members are ready and a look finds everything. -/
structure Healed (c : AzureConfig) (version : String) (w : World) : Prop where
  ready : ∀ n ∈ disksOf c, Ready w.cluster n
  verified : (run World.handler (verifyPrerequisites c version) w).1 = .ok true

/-- What holds at the end of a program holds at the end of its run. -/
theorem ends_of_run {p : Program α} {Q : List Asked → World → α → Prop}
    {F : List Asked → World → Prop} (hs : Safe World.moving .none (Ends Q F) p [] w) :
    (∃ asked a, (run World.handler p w).1 = .ok a ∧ Q asked (run World.handler p w).2 a) ∨
      ∃ asked, F asked (run World.handler p w).2 := by
  obtain ⟨trace, path⟩ := path_run (E := World.moving) (h := World.handler)
    (fun _ _ => Or.inl rfl) rfl p w
  have hend := (hs.along path).2
  cases hr : (run World.handler p w).1 with
  | ok a =>
    rw [hr] at hend
    exact Or.inl ⟨_, a, rfl, hend⟩
  | error e =>
    rw [hr] at hend
    exact Or.inr ⟨_, hend⟩

/-- When all disks are ready a look finds everything. -/
theorem healed_of_ready (hw : Orderly c version hid w)
    (hready : ∀ n ∈ disksOf c, Ready w.cluster n) :
    Healed c version w := by
  refine ⟨hready, ?_⟩
  rcases ends_of_run (moving_verifyPrerequisites (F := fun _ _ => False) hw.toEquipped rfl) with
    ⟨asked, found, hr, hend, -⟩ | ⟨asked, hfails⟩
  · rcases hend with ⟨-, rfl, -⟩ | ⟨hnot, -, -⟩
    · exact hr
    · exact absurd ((full_iff_ready hw.stocked).2 hready) hnot
  · exact hfails.elim

/-- A pass that does not find everything makes what is missing, as long as a zone is left. -/
theorem refilled_afterPass (subscription : String) (hw : Equipped c version w)
    (hnot : ¬ Full c w.cluster) :
    Refilled c (zonesLeft c version w.cluster) w (afterPass c subscription version w) := by
  rcases ends_of_run (moving_ensureMembers_of_not_full (F := fun _ _ => False) hw rfl hnot
    subscription) with
    ⟨asked, _, -, hrefilled, -⟩ | ⟨asked, hfails⟩
  · exact hrefilled
  · exact hfails.elim

/-- What is hidden stays hidden in a pass. -/
theorem orderly_afterPass (subscription : String) (hw : Orderly c version hid w) :
    ∃ hid', (∀ n, hid n → hid' n) ∧
    Orderly c version hid' (afterPass c subscription version w) := by
  by_cases hfull : Full c w.cluster
  · rcases ends_of_run (moving_ensureMembers_of_full hw rfl hfull subscription) with
      ⟨asked, _, -, hleft, -⟩ | ⟨asked, hleft⟩
    · exact ⟨hid, fun _ hn => hn, hleft⟩
    · exact ⟨leftHidden hid asked, fun _ hn => leftHidden_of_hid asked hn, hleft⟩
  · have hrefilled := refilled_afterPass subscription hw.toEquipped hfull
    refine ⟨hid, fun _ hn => hn, ?_⟩
    by_cases hzones : zonesLeft c version w.cluster = []
    · exact (hrefilled.nowhere hzones).orderly hw
    · have hfilled := hrefilled.somewhere hzones
      exact ⟨hfilled.equipped hw.toEquipped, hw.stocked.fill hfilled⟩

/-- And in any number of passes. -/
theorem orderly_afterPasses (subscription : String) (hw : Orderly c version hid w) (count : Nat) :
    ∃ hid', (∀ n, hid n → hid' n) ∧
      Orderly c version hid' (afterPasses c subscription version count w) := by
  induction count with
  | zero => exact ⟨hid, fun _ hn => hn, hw⟩
  | succ count ih =>
    obtain ⟨hid₁, hsub₁, hw₁⟩ := ih
    obtain ⟨hid₂, hsub₂, hw₂⟩ := orderly_afterPass subscription hw₁
    refine ⟨hid₂, fun n hn => hsub₂ n (hsub₁ n hn), ?_⟩
    rw [afterPasses_succ]
    exact hw₂

/-- Without zones passes leave everything as it is when something is missing. -/
theorem alike_afterPasses (subscription : String) (hw : Equipped c version w)
    (hnot : ¬ Full c w.cluster) (hzones : zonesLeft c version w.cluster = []) (count : Nat) :
    Alike w (afterPasses c subscription version count w) := by
  induction count with
  | zero => exact .refl w
  | succ count ih =>
    -- What a pass does is told from what it finds, and that has not changed.
    have hnot' : ¬ Full c (afterPasses c subscription version count w).cluster := by
      unfold Full
      rw [ih.disks]
      exact hnot
    have hzones' : zonesLeft c version (afterPasses c subscription version count w).cluster =
        [] := by
      unfold zonesLeft
      rw [ih.disks, ih.mastersIn]
      exact hzones
    rw [afterPasses_succ]
    exact ih.trans ((refilled_afterPass subscription (ih.equipped hw) hnot').nowhere hzones')

/-! ## What does not mend -/

/-- A disk that is missing is not ready. -/
theorem not_ready_of_missing (hmissing : s.disks.get? n = none) : ¬ Ready s n := by
  rintro ⟨d, hd, -⟩
  cases hmissing.symm.trans hd

/-- A disk that is hidden keeps a cluster from mending, however many passes follow. -/
theorem not_healed_of_hid (hw : Orderly c version hid w) (hn : hid n) (count : Nat) :
    ¬ Healed c version (afterPasses c subscription version count w) := by
  obtain ⟨hid', hsub, hw'⟩ := orderly_afterPasses subscription hw count
  obtain ⟨hmem, hhidden⟩ := hw'.stocked.hidden n (hsub n hn)
  intro hhealed
  exact hhidden.not_ready (hhealed.ready n hmem)

/-- A disk that is missing without a zone left for it keeps a cluster from mending as well. -/
theorem not_healed_of_zonesLeft (hw : Orderly c version hid w) (hn : n ∈ disksOf c)
    (hmissing : w.cluster.disks.get? n = none) (hzones : zonesLeft c version w.cluster = [])
    (count : Nat) :
    ¬ Healed c version (afterPasses c subscription version count w) := by
  have hnot : ¬ Full c w.cluster := fun h =>
    not_ready_of_missing hmissing ((full_iff_ready hw.stocked).1 h n hn)
  have hstays := alike_afterPasses subscription hw.toEquipped hnot hzones count
  intro hhealed
  refine not_ready_of_missing ?_ (hhealed.ready n hn)
  rw [hstays.disks]
  exact hmissing

/-! ## What mends -/

/-- When nothing is hidden and a zone is left for what is missing, one pass mends. -/
theorem healed_afterPasses (hw : Orderly c version (fun _ => False) w)
    (hzones : (∃ m ∈ disksOf c, w.cluster.disks.get? m = none) →
      zonesLeft c version w.cluster ≠ []) :
    ∃ count ≤ 1, Healed c version (afterPasses c subscription version count w) := by
  by_cases hmissing : ∃ m ∈ disksOf c, w.cluster.disks.get? m = none
  · obtain ⟨m, hm, hnone⟩ := hmissing
    have hnot : ¬ Full c w.cluster := fun h =>
      not_ready_of_missing hnone ((full_iff_ready hw.stocked).1 h m hm)
    have hfilled := (refilled_afterPass subscription hw.toEquipped hnot).somewhere
      (hzones ⟨m, hm, hnone⟩)
    have hw' : Orderly c version (fun _ => False) (afterPasses c subscription version 1 w) :=
      ⟨hfilled.equipped hw.toEquipped, hw.stocked.fill hfilled⟩
    refine ⟨1, Nat.le_refl 1, healed_of_ready hw' fun n hn => ?_⟩
    rcases hw.stocked.others n hn id with ⟨d, hd, hready⟩ | hnone
    · exact ⟨d, hfilled.kept n d hd, hready⟩
    · exact hfilled.made n hn hnone
  · refine ⟨0, Nat.zero_le 1, healed_of_ready hw fun n hn => ?_⟩
    exact (hw.stocked.others n hn id).resolve_right fun hnone => hmissing ⟨n, hn, hnone⟩

/-! ## Failed moves -/

/-- Whether nothing fails and nothing is missing. -/
structure Complete (c : AzureConfig) (version : String) (w : World) : Prop extends
    Equipped c version w where
  named : ∀ n d, w.cluster.disks.get? n = some d → d.name = n
  ready : ∀ n ∈ disksOf c, Ready w.cluster n

/-- A pass over what is complete that fails in a move leaves what the step that fails leaves of
it. -/
theorem orderly_of_aborted {r : Except Error Unit} (hw : Complete c version w)
    (path : Path World.moving (ensureMembers c subscription version) w asked (done r) w')
    (habort : abortedAt asked = some (step, n)) :
    Orderly c version (leaves (fun _ => False) step n) w' := by
  by_cases hfull : Full c w.cluster
  · have hstart : Orderly c version (fun _ => False) w :=
      ⟨hw.toEquipped, stocked_of_full hw.named hw.ready hfull⟩
    have hsafe : Safe World.moving .none (Tidies c version fun _ => False) _ [] w :=
      moving_ensureMembers_of_full hstart rfl hfull subscription
    have hend := (hsafe.along path).2
    cases r with
    | ok _ => cases habort.symm.trans hend.2
    | error e =>
      rw [← leftHidden_of_some habort]
      exact hend
  · have hsafe : Safe World.moving .none (Ends _ fun _ _ => False) _ [] w :=
      moving_ensureMembers_of_not_full hw.toEquipped rfl hfull subscription
    have hend := (hsafe.along path).2
    cases r with
    | ok _ => cases habort.symm.trans hend.2
    | error e => exact hend.elim

/-- Whether passes mend what a step that failed has left: the disk is not hidden, and a zone is left
if a disk is missing. -/
def Mends (c : AzureConfig) (version : String) (step : MoveStep) (s : Subscription) : Prop :=
  (step = .hide ∨ step = .awaitDeletion) ∧
    ((∃ m ∈ disksOf c, s.disks.get? m = none) → zonesLeft c version s ≠ [])

/-- **A failed move mends, or never does.** What a pass has left that failed in the move of a disk
is mended by passes in which nothing fails when the step that failed was to hide the disk or to wait
for its deletion, and a zone is left if a disk is missing. Otherwise no number of passes mends
it. -/
theorem heals_or_never {r : Except Error Unit} (hw : Complete c version w)
    (path : Path World.moving (ensureMembers c subscription version) w asked (done r) w')
    (habort : abortedAt asked = some (step, n)) :
    (Mends c version step w'.cluster →
      ∃ count ≤ 5, Healed c version (afterPasses c subscription version count w')) ∧
    (¬ Mends c version step w'.cluster →
      ∀ count, ¬ Healed c version (afterPasses c subscription version count w')) := by
  have hleft := orderly_of_aborted hw path habort
  constructor
  · rintro ⟨hstep, hzones⟩
    have hnothing : leaves (fun _ => False) step n = fun _ => False := by
      rcases hstep with rfl | rfl <;> rfl
    rw [hnothing] at hleft
    obtain ⟨count, hcount, hhealed⟩ := healed_afterPasses hleft hzones
    exact ⟨count, Nat.le_trans hcount (by decide), hhealed⟩
  · intro hnot count
    by_cases hstep : step = .hide ∨ step = .awaitDeletion
    · unfold Mends at hnot
      push Not at hnot
      obtain ⟨⟨m, hm, hmissing⟩, hzones⟩ := hnot hstep
      exact not_healed_of_zonesLeft hleft hm hmissing hzones count
    · refine not_healed_of_hid hleft (n := n) ?_ count
      cases step with
      | hide => exact absurd (Or.inl rfl) hstep
      | awaitDeletion => exact absurd (Or.inr rfl) hstep
      | _ => exact Or.inr rfl

/-! ## A cluster with one disk -/

/-- The world of a small cluster whose master is in another zone than its disk. -/
def wiredWorld : World :=
  { strandedWorld with cluster := strandedWorld.cluster.setAddress "c1-master" "0" "10.0.0.4" }

/-- A world in memory where a step of a move fails that has a method and a target. -/
def refusing (method target : String) : Handler World where
  answer call w :=
    match call with
    | .cloud account group k =>
      if (Call.cloud account group k).moves && (k.method = method && k.target = target) then
        (.error (.api 500 target), w)
      else World.answer (.cloud account group k) w
    | call => World.answer call w
  note := World.handler.note

/-- The pass over the small cluster that fails there. -/
def failing (method target : String) : List Asked × Program Unit × World :=
  advance (refusing method target) 20 (ensureMembers smallCluster "sub-tenant" "1.0.0") wiredWorld

/-- Such a pass is one in which a step of a move may fail. -/
theorem path_failing (method target : String) :
    Path World.moving (ensureMembers smallCluster "sub-tenant" "1.0.0") wiredWorld
      (failing method target).1 (failing method target).2.1 (failing method target).2.2 := by
  have hanswer : ∀ call w, World.moving.answers call w ((refusing method target).answer call w).1
      ((refusing method target).answer call w).2 := by
    intro call w
    cases call with
    | cloud account group k =>
      unfold refusing
      dsimp only
      split
      · rename_i hrefused
        exact Or.inr ⟨(Bool.and_eq_true_iff.1 hrefused).1, ⟨_, rfl⟩, w.cluster.log, rfl⟩
      · exact Or.inl rfl
    | _ => exact Or.inl rfl
  unfold failing
  exact path_advance hanswer rfl 20 _ _

/-- Nothing is missing in the small cluster. -/
theorem complete_wiredWorld : Complete smallCluster "1.0.0" wiredWorld where
  calm := rfl
  cloudCalm := rfl
  newState := rfl
  scaleSet := by
    have hname : Name.masterScaleSet smallCluster.clusterId = "c1-master" := by decide +kernel
    rw [hname]
    exact ⟨_, Dict.get?_insert_self _ _ _, by decide +kernel⟩
  masters := by decide +kernel
  count := by decide +kernel
  certs := by
    have hissued : ∀ cert ∈ memberCerts (memberCount smallCluster.masterCount),
        (Table.at? wiredWorld.bundles smallCluster.clusterId cert.name).isSome = true := by
      decide +kernel
    exact fun cert hcert => Option.isSome_iff_exists.1 (hissued cert hcert)
  named := by
    have hnames : ∀ e ∈ wiredWorld.cluster.disks.entries, e.2.name = e.1 := by decide +kernel
    exact fun n d hd => hnames (n, d) (Dict.mem_entries.2 hd)
  ready := by decide +kernel

/-- A move that fails in the wait for the deletion mends; one that fails in the first wait does
not. -/
theorem heals_or_never_wired :
    Complete smallCluster "1.0.0" wiredWorld ∧
      abortedAt (failing "wait" "delete disk etcd1").1 = some (.awaitDeletion, "etcd1") ∧
      (∃ count ≤ 5, Healed smallCluster "1.0.0" (afterPasses smallCluster "sub-tenant" "1.0.0" count
        (failing "wait" "delete disk etcd1").2.2)) ∧
      abortedAt (failing "wait" "create or update disk etcd1").1 = some (.awaitHiding, "etcd1") ∧
      ∀ count, ¬ Healed smallCluster "1.0.0" (afterPasses smallCluster "sub-tenant" "1.0.0" count
        (failing "wait" "create or update disk etcd1").2.2) := by
  have hlate :
      abortedAt (failing "wait" "delete disk etcd1").1 = some (.awaitDeletion, "etcd1") := by
    decide +kernel
  have hearly : abortedAt (failing "wait" "create or update disk etcd1").1 =
      some (.awaitHiding, "etcd1") := by decide +kernel
  have hends : ∀ target ∈ ["delete disk etcd1", "create or update disk etcd1"],
      (failing "wait" target).2.1.result?.isSome = true := by decide +kernel
  have hzones : zonesLeft smallCluster "1.0.0" (failing "wait" "delete disk etcd1").2.2.cluster ≠
      [] := by
    decide +kernel
  have hpath : ∀ target ∈ ["delete disk etcd1", "create or update disk etcd1"], ∃ r,
      Path World.moving (ensureMembers smallCluster "sub-tenant" "1.0.0") wiredWorld
        (failing "wait" target).1 (done r) (failing "wait" target).2.2 := by
    intro target htarget
    obtain ⟨r, hr⟩ := Option.isSome_iff_exists.1 (hends target htarget)
    refine ⟨r, ?_⟩
    rw [← eq_done_of_result? hr]
    exact path_failing "wait" target
  obtain ⟨r, hlatePath⟩ := hpath _ List.mem_cons_self
  obtain ⟨r', hearlyPath⟩ := hpath _ (List.mem_cons_of_mem _ List.mem_cons_self)
  refine ⟨complete_wiredWorld, hlate, ?_, hearly, ?_⟩
  · exact (heals_or_never complete_wiredWorld hlatePath hlate).1 ⟨Or.inr rfl, fun _ => hzones⟩
  · refine (heals_or_never complete_wiredWorld hearlyPath hearly).2 ?_
    rintro ⟨h | h, -⟩
    · cases h
    · cases h

/-- Not every move that failed mends, also when all masters have a zone and an address and only
members' disks have the role. -/
theorem not_healed_of_aborted :
    ¬ ∀ (c : AzureConfig) (subscription version : String) (w w' : World) (asked : List Asked)
      (r : Except Error Unit) (step : MoveStep) (n : String), Complete c version w →
      (∀ v ∈ mastersIn c w.cluster, v.zone ≠ none ∧
        (Table.at? w.cluster.interfaces (Name.masterScaleSet c.clusterId) v.instanceId).bind
          NetworkInterface.primaryAddress ≠ none) →
      (∀ e ∈ w.cluster.disks.entries, isMemberDisk e.2 = true → e.1 ∈ disksOf c) →
      Path World.moving (ensureMembers c subscription version) w asked (done r) w' →
      abortedAt asked = some (step, n) →
      ∃ count ≤ 5, Healed c version (afterPasses c subscription version count w') := by
  intro hclaim
  have hends : (failing "wait" "create or update disk etcd1").2.1.result?.isSome = true := by
    decide +kernel
  obtain ⟨r, hr⟩ := Option.isSome_iff_exists.1 hends
  have habort : abortedAt (failing "wait" "create or update disk etcd1").1 =
      some (.awaitHiding, "etcd1") := by decide +kernel
  have path := path_failing "wait" "create or update disk etcd1"
  rw [eq_done_of_result? hr] at path
  obtain ⟨count, -, hhealed⟩ := hclaim _ _ _ _ _ _ _ _ _ complete_wiredWorld (by decide +kernel)
    (by decide +kernel) path habort
  have hleft := orderly_of_aborted complete_wiredWorld path habort
  exact not_healed_of_hid hleft (n := "etcd1") (Or.inr rfl) count hhealed

end TenantFleet.Etcd
