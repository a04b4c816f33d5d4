/-
# To whom a disk is given

A pass gives a master a free disk without waiting for the cloud to attach it, and lists the disks
again for the next master. What it takes for free is what the listing shows as not attached, so a
disk goes to one master only as long as no listing lags behind.

* `handed` : the masters and the disks that they are given, in the order of the calls;
* `handsChosen_of_issues` : every disk that is given was chosen from the listing answered right
  before;
* `exclusive_iff` : when a pass gives every disk to one master only.
-/
import Mathlib.Data.List.Induction
import Mathlib.Data.List.Nodup
import TenantFleet.Proofs.Etcd.Preservation
import TenantFleet.Proofs.Program.Trace

namespace TenantFleet.Etcd

open Program

variable {c : AzureConfig} {subscription : String} {q : Program Unit}
  {trace before after : List Asked} {call : Call} {inst disk : String}

/-! ## Giving disks away -/

/-- The master that a call gives a disk, and the disk. -/
def handedBy : Call → Option (String × String)
  | .cloud _ _ (.putInstance _ inst value) =>
    (value.dataDisks.getLast?.bind DataDisk.name).map fun disk => (inst, disk)
  | _ => none

/-- Whether a call writes a master. -/
def Updates : Call → Prop
  | .cloud _ _ (.putInstance _ _ _) => True
  | _ => False

/-- What gives a disk away writes a master. -/
theorem updates_of_handedBy (h : handedBy call = some (inst, disk)) : Updates call := by
  unfold handedBy at h
  split at h
  · trivial
  · cases h

/-- The masters that are given disks and the disks, in the order of the calls. -/
def handed (trace : List Asked) : List (String × String) := trace.filterMap fun a => handedBy a.call

@[simp] theorem handed_append (trace trace' : List Asked) :
    handed (trace ++ trace') = handed trace ++ handed trace' := by
  unfold handed
  rw [List.filterMap_append]

/-- A call that gives a disk away. -/
theorem handed_cons_of_some {a : Asked} (h : handedBy a.call = some (inst, disk)) :
    handed (a :: trace) = (inst, disk) :: handed trace :=
  List.filterMap_cons_some h

/-- A call that gives nothing away. -/
theorem handed_cons_of_none {a : Asked} (h : handedBy a.call = none) :
    handed (a :: trace) = handed trace :=
  List.filterMap_cons_none h

/-- What is given was given by one of the calls. -/
theorem exists_of_mem_handed (h : (inst, disk) ∈ handed trace) :
    ∃ before a after, trace = before ++ a :: after ∧ handedBy a.call = some (inst, disk) := by
  obtain ⟨a, ha, hgives⟩ := List.mem_filterMap.1 h
  obtain ⟨before, after, hsplit⟩ := List.append_of_mem ha
  exact ⟨before, a, after, hsplit, hgives⟩

/-- Whether a master has a disk at the first unit. -/
def holds (v : Instance) (disk : String) : Bool :=
  v.dataDisks.any fun d => d.lun = diskUnit && d.name = some disk

/-- Whether a listing shows a disk at a master, other than the one of the given ID. -/
def showsAtOther (inst disk : String) : Asked → Bool
  | ⟨.cloud _ _ (.listInstances _), .ok listed⟩ =>
    listed.any fun v => v.instanceId ≠ inst && holds v disk
  | _ => false

/-- Whether a master was listed that has a disk, other than the one of the given ID. -/
def HeldByOther (trace : List Asked) (inst disk : String) : Prop :=
  ∃ a ∈ trace, showsAtOther inst disk a = true

instance (trace : List Asked) (inst disk : String) : Decidable (HeldByOther trace inst disk) :=
  inferInstanceAs (Decidable (∃ a ∈ trace, showsAtOther inst disk a = true))

/-- Whether every disk is given to one master only, and none that another listed master has. -/
structure Exclusive (trace : List Asked) : Prop where
  once : ((handed trace).map Prod.snd).Nodup
  unheld : ∀ given ∈ handed trace, ¬ HeldByOther trace given.1 given.2

instance (trace : List Asked) : Decidable (Exclusive trace) :=
  decidable_of_iff (((handed trace).map Prod.snd).Nodup ∧
      ∀ given ∈ handed trace, ¬ HeldByOther trace given.1 given.2)
    ⟨fun h => ⟨h.1, h.2⟩, fun h => ⟨h.once, h.unheld⟩⟩

/-! ## What is given -/

/-- Attaching a disk to a master gives it that disk. -/
theorem handedBy_attach (account : Account) (group scaleSet : String) (v : Instance) (lun : Int)
    (disk id : String) :
    handedBy (.cloud account group (.putInstance scaleSet v.instanceId (v.attach lun disk id))) =
      some (v.instanceId, disk) := by
  unfold handedBy
  dsimp only
  rw [Instance.dataDisks_attach, List.getLast?_concat]
  rfl

/-- The call that attaches a disk to a master. -/
def handOver (c : AzureConfig) (subscription : String) (v : Instance) (disk : String) : Call :=
  .cloud c.group.account c.group.name (.putInstance (Name.masterScaleSet c.clusterId) v.instanceId
    (v.attach diskUnit disk (diskId subscription c.clusterId disk)))

/-- Whether a call attaches to a master the disk chosen from the listing answered right before. -/
def HandsChosen (c : AzureConfig) (subscription : String) (trace : List Asked)
    (call : Call) : Prop :=
  ∃ before disks v d,
    trace = before ++ [⟨.cloud c.group.account c.group.name .listDisks, .ok disks⟩] ∧
      chooseDisk (v.zone.getD "") disks = .use d ∧ call = handOver c subscription v d.name

/-- What comes before the listing does not matter. -/
theorem HandsChosen.append (h : HandsChosen c subscription after call) (before : List Asked) :
    HandsChosen c subscription (before ++ after) call := by
  obtain ⟨first, disks, v, d, rfl, hchoice, hcall⟩ := h
  exact ⟨before ++ first, disks, v, d, (List.append_assoc _ _ _).symm, hchoice, hcall⟩

/-- Moving a disk writes no master. -/
theorem asks_migrateDisk (c : AzureConfig) (d : Disk) :
    Asks (fun call => ¬ Updates call) (migrateDisk c d) :=
  .bind (.groupCall id) fun _ => .bind (.groupCall id) fun _ => .bind (.groupCall id) fun _ =>
    .bind (.groupCall id) fun _ => .bind (.groupCall id) fun _ => .groupCall id

/-- A disk that is found was chosen from the listing, which was the only call. -/
theorem yields_findAvailableDisk {zone : String}
    (h : Yields (findAvailableDisk c zone) trace disk) (hdisk : disk ≠ "") :
    ∃ disks d, trace = [⟨.cloud c.group.account c.group.name .listDisks, .ok disks⟩] ∧
      chooseDisk zone disks = .use d ∧ disk = d.name := by
  obtain ⟨disks, before, after, rfl, hlist, hend⟩ := yields_bind.1 h
  obtain rfl := yields_groupCall.1 hlist
  cases hchoice : chooseDisk zone disks with
  | use d =>
    rw [hchoice] at hend
    obtain ⟨rfl, hend⟩ := yields_done.1 hend
    cases hend
    exact ⟨disks, d, rfl, hchoice, rfl⟩
  | move d =>
    rw [hchoice] at hend
    obtain ⟨_, _, _, _, -, hend⟩ := yields_bind.1 hend
    cases (yields_done.1 hend).2
    exact absurd rfl hdisk
  | nothing =>
    rw [hchoice] at hend
    cases (yields_done.1 hend).2
    exact absurd rfl hdisk

/-- Looking for a disk writes no master. -/
theorem asks_findAvailableDisk (c : AzureConfig) (zone : String) :
    Asks (fun call => ¬ Updates call) (findAvailableDisk c zone) := by
  refine .bind (.groupCall id) fun disks => ?_
  cases chooseDisk zone disks with
  | use d => trivial
  | move d => exact (asks_migrateDisk c d).bind fun _ => trivial
  | nothing => trivial

/-- A master is written only when its first unit holds no disk with a name, and then it is given the
disk that was found for it. -/
theorem issues_ensureMember {v : Instance} (h : Issues (ensureMember c subscription v) trace call)
    (hput : Updates call) :
    memberOf v = "" ∧ ∃ disks d, trace =
      [⟨.cloud c.group.account c.group.name .listDisks, .ok disks⟩] ∧
      chooseDisk (v.zone.getD "") disks = .use d ∧ call = handOver c subscription v d.name := by
  unfold ensureMember at h
  split at h
  · rename_i hempty
    refine ⟨by simpa using hempty, ?_⟩
    rcases issues_bind.1 h with hfind | ⟨disk, before, after, rfl, hdisk, hrest⟩
    · exact absurd hput ((asks_findAvailableDisk c _).of_issues hfind)
    · split at hrest
      · exact absurd hrest not_issues_done
      · rename_i hsome
        obtain ⟨disks, d, rfl, hchoice, rfl⟩ :=
          yields_findAvailableDisk hdisk (by simpa using hsome)
        rcases issues_bind.1 hrest with hput | ⟨_, _, _, _, _, hend⟩
        · obtain ⟨rfl, rfl⟩ := issues_groupCall.1 hput
          exact ⟨disks, d, rfl, hchoice, rfl⟩
        · exact absurd hend not_issues_done
  · exact absurd h not_issues_done

/-- What a master is given is the disk that was found for it. -/
theorem handsChosen_of_ensureMember {v : Instance}
    (h : Issues (ensureMember c subscription v) trace call) (hput : Updates call) :
    HandsChosen c subscription trace call := by
  obtain ⟨-, disks, d, htrace, hchoice, hcall⟩ := issues_ensureMember h hput
  exact ⟨[], disks, v, d, htrace, hchoice, hcall⟩

/-- Starting a member writes no master. -/
theorem not_updates_of_starting (h : Starting call) : ¬ Updates call := by
  unfold Updates
  split
  · exact h.elim
  · exact id

/-- Every disk that masters are given was chosen from the listing answered right before. -/
theorem handsChosen_of_attachAll {entries : List String} {l : List Instance}
    (h : Issues (attachAll c subscription entries l) trace call) (hput : Updates call) :
    HandsChosen c subscription trace call := by
  induction l generalizing entries trace with
  | nil => exact absurd h not_issues_done
  | cons v rest ih =>
    rw [attachAll] at h
    split at h
    · rcases issues_bind.1 h with hmember | ⟨member, before, after, rfl, -, hrest⟩
      · exact handsChosen_of_ensureMember hmember hput
      · refine HandsChosen.append ?_ before
        split at hrest
        · exact ih hrest
        · rcases issues_bind.1 hrest with hstart | ⟨entries', before', after', rfl, -, hrest⟩
          · exact absurd hput (not_updates_of_starting
              ((asks_startMember c _ _ _).of_issues hstart))
          · exact (ih hrest).append before'
    · exact ih h

/-- Every disk that a pass gives away was chosen from the listing answered right before. -/
theorem handsChosen_of_issues (h : Issues (attachDisks c subscription) trace call)
    (hput : Updates call) :
    HandsChosen c subscription trace call := by
  rcases issues_bind.1 h with hlist | ⟨found, before, after, rfl, -, hrest⟩
  · obtain ⟨-, rfl⟩ := issues_find?.1 hlist
    exact hput.elim
  · refine HandsChosen.append ?_ before
    cases found with
    | none => exact absurd hrest not_issues_done
    | some instances => exact handsChosen_of_attachAll hrest hput

/-! ## Listings that lag behind -/

/-- Whether a disk is spoken for: it was given away before, or another listed master has it. -/
def Taken (trace before : List Asked) (inst disk : String) : Prop :=
  disk ∈ (handed before).map Prod.snd ∨ HeldByOther trace inst disk

/-- Whether a disk that a pass is about to give to a master is spoken for, though the listing shows
it as free: what was asked so far, the listing and the master follow each other. -/
def Lagging (trace : List Asked) : Prop :=
  ∃ before account group disks scaleSet inst value r after d,
    trace = before ++ ⟨.cloud account group .listDisks, .ok disks⟩ ::
      ⟨.cloud account group (.putInstance scaleSet inst value), r⟩ :: after ∧
    chooseDisk (value.zone.getD "") disks = .use d ∧ Taken trace before inst d.name

/-- Whether all listings keep up: what is spoken for is shown as attached. -/
def KeepsUp (trace : List Asked) : Prop :=
  ∀ before account group disks after,
    trace = before ++ ⟨.cloud account group .listDisks, .ok disks⟩ :: after →
    ∀ d ∈ disks, ∀ inst, Taken trace before inst d.name → d.attached = true

/-- A call that gives a disk away comes right after the listing that it was chosen from. -/
theorem exists_listing {r : Except call.Failure call.Answer}
    (path : Path .any (attachDisks c subscription) () (before ++ ⟨call, r⟩ :: after) q ())
    (hgives : handedBy call = some (inst, disk)) :
    ∃ first disks v d,
      before = first ++ [⟨.cloud c.group.account c.group.name .listDisks, .ok disks⟩] ∧
        chooseDisk (v.zone.getD "") disks = .use d ∧ call = handOver c subscription v d.name ∧
        inst = v.instanceId ∧ disk = d.name := by
  obtain ⟨first, disks, v, d, rfl, hchoice, rfl⟩ :=
    handsChosen_of_issues (Path.issues_of_append before after path) (updates_of_handedBy hgives)
  unfold handOver at hgives
  rw [handedBy_attach] at hgives
  cases hgives
  exact ⟨first, disks, v, d, rfl, hchoice, rfl, rfl, rfl⟩

/-- A listing gives nothing away. -/
theorem taken_listing {account : Account} {group : String} {disks : List Disk} :
    Taken trace (before ++ [⟨.cloud account group .listDisks, .ok disks⟩]) inst disk ↔
      Taken trace before inst disk := by
  have hnone : handed [⟨.cloud account group .listDisks, .ok disks⟩] = [] := rfl
  unfold Taken
  rw [handed_append, hnone, List.append_nil]

/-- A listing lags behind exactly when a disk is given away that is spoken for. -/
theorem lagging_iff (path : Path .any (attachDisks c subscription) () trace q ()) :
    Lagging trace ↔ ∃ before a after inst disk, trace = before ++ a :: after ∧
      handedBy a.call = some (inst, disk) ∧ Taken trace before inst disk := by
  constructor
  · rintro ⟨before, account, group, disks, scaleSet, inst, value, r, after, d, hsplit,
      hchoice, htaken⟩
    rw [List.append_cons] at hsplit
    have path' := path
    rw [hsplit] at path'
    -- The call gives away the disk chosen from its listing, and there is only one.
    obtain ⟨first, disks', v, d', hfirst, hchoice', hcall⟩ :=
      handsChosen_of_issues (Path.issues_of_append _ after path') (by trivial)
    obtain ⟨rfl, hlast⟩ := List.append_inj' hfirst rfl
    cases hlast
    cases hcall
    have hzone : (v.attach diskUnit d'.name (diskId subscription c.clusterId d'.name)).zone =
        v.zone := rfl
    rw [hzone, hchoice'] at hchoice
    cases hchoice
    refine ⟨_, _, after, _, _, hsplit, handedBy_attach _ _ _ _ _ _ _, ?_⟩
    rw [taken_listing]
    exact htaken
  · rintro ⟨before, ⟨call, r⟩, after, inst, disk, hsplit, hgives, htaken⟩
    have path' := path
    rw [hsplit] at path'
    obtain ⟨first, disks, v, d, rfl, hchoice, rfl, rfl, rfl⟩ := exists_listing path' hgives
    rw [taken_listing] at htaken
    rw [List.append_assoc, List.singleton_append] at hsplit
    exact ⟨first, _, _, disks, _, _, _, r, after, d, hsplit, hchoice, htaken⟩

/-- A pass is exclusive exactly when nothing that it gives away is spoken for. -/
theorem exclusive_iff_not_taken :
    Exclusive trace ↔ ∀ before a after inst disk, trace = before ++ a :: after →
      handedBy a.call = some (inst, disk) → ¬ Taken trace before inst disk := by
  constructor
  · rintro h before a after inst disk rfl hgives htaken
    have hgiven : handed (before ++ a :: after) = handed before ++ (inst, disk) ::
        handed after := by
      rw [handed_append, handed_cons_of_some hgives]
    rcases htaken with htaken | hheld
    · have honce := h.once
      rw [hgiven, List.map_append, List.map_cons] at honce
      exact List.disjoint_of_nodup_append honce htaken List.mem_cons_self
    · refine h.unheld (inst, disk) ?_ hheld
      rw [hgiven]
      exact List.mem_append_right _ List.mem_cons_self
  · intro h
    refine ⟨?_, ?_⟩
    · -- No disk that is given away was given away before.
      have hprefix : ∀ before after, trace = before ++ after →
          ((handed before).map Prod.snd).Nodup := by
        intro before
        induction before using List.reverseRecOn with
        | nil => exact fun _ _ => List.nodup_nil
        | append_singleton first a ih =>
          intro after hsplit
          rw [List.append_assoc, List.singleton_append] at hsplit
          have hfirst := ih _ hsplit
          rw [handed_append]
          cases hgives : handedBy a.call with
          | none =>
            rw [handed_cons_of_none hgives]
            simpa [handed] using hfirst
          | some given =>
            obtain ⟨inst, disk⟩ := given
            have hnew : disk ∉ (handed first).map Prod.snd :=
              fun hmem => h first a after inst disk hsplit hgives (Or.inl hmem)
            rw [handed_cons_of_some hgives, List.map_append]
            refine hfirst.append (List.nodup_singleton _) ?_
            exact List.disjoint_singleton.2 hnew
      exact hprefix trace [] (List.append_nil _).symm
    · rintro ⟨inst, disk⟩ hmem hheld
      obtain ⟨before, a, after, hsplit, hgives⟩ := exists_of_mem_handed hmem
      exact h before a after inst disk hsplit hgives (Or.inr hheld)

/-- **To whom a disk is given.** A pass gives every disk to one master only, and none that another
master has, if and only if no listing lags behind on a disk that it chooses from it: in particular
when all listings keep up with what the masters have and were given. -/
theorem exclusive_iff (path : Path .any (attachDisks c subscription) () trace q ()) :
    (Exclusive trace ↔ ¬ Lagging trace) ∧ (KeepsUp trace → Exclusive trace) := by
  have hiff : Exclusive trace ↔ ¬ Lagging trace := by
    rw [exclusive_iff_not_taken, lagging_iff path]
    constructor
    · rintro h ⟨before, a, after, inst, disk, hsplit, hgives, htaken⟩
      exact h before a after inst disk hsplit hgives htaken
    · intro h before a after inst disk hsplit hgives htaken
      exact h ⟨before, a, after, inst, disk, hsplit, hgives, htaken⟩
  refine ⟨hiff, fun hcurrent => hiff.2 ?_⟩
  rintro ⟨before, account, group, disks, scaleSet, inst, value, r, after, d, hsplit,
    hchoice, htaken⟩
  obtain ⟨hmem, hfree⟩ := free_of_chooseDisk hchoice
  have hattached := hcurrent before account group disks _ hsplit d hmem inst htaken
  unfold isFree at hfree
  rw [hattached, Bool.not_true, Bool.and_false] at hfree
  cases hfree

/-! ## Two masters -/

/-- A master without disks. -/
def bareMaster (inst : String) : Instance :=
  { instanceId := inst, provisioningState := some provisioningSucceeded }

/-- A member's disk that is ready, without an owner. -/
def spareDisk (disk : String) : Disk where
  name? := some disk
  location := "westeurope"
  tags := roleTags
  provisioningState := some provisioningSucceeded

/-- A world with two masters, which have addresses, and some disks. -/
def pairWorld (first second : Instance) (disks : List Disk) : World :=
  let cluster : Subscription :=
    { id := "sub-tenant"
      scaleSets := Dict.empty.insert "c1-master" { location := "westeurope" } }
  let masters := (cluster.addInstance "c1-master" first).addInstance "c1-master" second
  let reached := (masters.setAddress "c1-master" "0" "10.0.0.4").setAddress "c1-master"
    "1" "10.0.0.5"
  let tls : Tls := ⟨"ca", "crt", "key"⟩
  let world : World := { cluster := disks.foldl Subscription.addDisk reached, template := .null }
  (world.addBundle "c1" .etcd1 tls).addBundle "c1" .etcd2 tls

/-- A handler whose listings of disks do not change. -/
def laggingHandler (disks : List Disk) : Handler World where
  answer
    | .cloud _ _ .listDisks, w => (.ok disks, w)
    | c, w => World.handler.answer c w
  note := World.handler.note

/-- The calls of a pass over two masters, and what is left of it. -/
def attaching (h : Handler World) (w : World) : List Asked × Program Unit × World :=
  advance h 20 (attachDisks smallCluster "sub-tenant") w

/-- A pass comes there. -/
theorem path_attaching (h : Handler World) (w : World) :
    Path .any (attachDisks smallCluster "sub-tenant") () (attaching h w).1
      (attaching h w).2.1 () := by
  have path := path_advance (E := ⟨h.Turns, h.note⟩) (fun c w => .answered) rfl 20
    (attachDisks smallCluster "sub-tenant") w
  exact path.forget

/-- When every listing shows what was given away, two masters get a disk each, and no listing
lags behind. -/
theorem exclusive_iff_pair :
    let trace := (attaching World.handler
      (pairWorld (bareMaster "0") (bareMaster "1") [spareDisk "etcd1", spareDisk "etcd2"])).1
    handed trace = [("0", "etcd1"), ("1", "etcd2")] ∧ Exclusive trace ∧ ¬ Lagging trace := by
  intro trace
  have hexclusive : Exclusive trace := by decide +kernel
  exact ⟨by decide +kernel, hexclusive, (exclusive_iff (path_attaching _ _)).1.1 hexclusive⟩

/-- When the listings lag behind, two masters get the same disk, or one gets the disk of another. -/
theorem not_exclusive :
    (∃ trace q, Path .any (attachDisks smallCluster "sub-tenant") () trace q () ∧
      handed trace = [("0", "etcd1"), ("1", "etcd1")] ∧ ¬ Exclusive trace) ∧
    ∃ trace q, Path .any (attachDisks smallCluster "sub-tenant") () trace q () ∧
      handed trace = [("1", "etcd1")] ∧ ¬ Exclusive trace := by
  constructor
  · refine ⟨_, _, path_attaching (laggingHandler [spareDisk "etcd1"])
      (pairWorld (bareMaster "0") (bareMaster "1") [spareDisk "etcd1"]), ?_⟩
    decide +kernel
  · refine ⟨_, _, path_attaching World.handler (pairWorld
      ((bareMaster "0").attach diskUnit "etcd1" "disks/etcd1") (bareMaster "1")
      [spareDisk "etcd1"]), ?_⟩
    decide +kernel

end TenantFleet.Etcd
