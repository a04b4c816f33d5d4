/-
# One master at a time

The members live on the masters, and a pass that took down two of them could cost the quorum. A pass
lists the masters once, chooses one of them, and stops, updates, reimages, starts or copies no other
one.

* `Call.touches` : that a call takes a master down, or up again, or copies a disk;
* `chosen` : the master that a stage chooses in a listing;
* `Concerns` : the calls that are about a master;
* `KeepsToOne` : that a program lists the masters once, and touches only the one that is chosen
  then;
* `touches_one` : a pass touches no other master, and reimages none before its update has ended.
-/
import TenantFleet.Proofs.Masters.Reimage

namespace TenantFleet

open Program

/-! ## Calls about a master -/

/-- Whether a call moves an instance to the latest model. -/
def Call.isUpdate : Call → Bool
  | .cloud _ _ (.updateInstances _ _) => true
  | _ => false

/-- Whether a call reimages an instance. -/
def Call.isReimage : Call → Bool
  | .cloud _ _ (.reimage _ _) => true
  | _ => false

/-- Whether a call takes an instance down, or up again, or copies a disk. -/
def Call.touches : Call → Bool
  | .cloud _ _ (.deallocate _ _) | .cloud _ _ (.updateInstances _ _) | .cloud _ _ (.reimage _ _)
  | .cloud _ _ (.start _ _) | .cloud _ _ (.putSnapshot _ _) => true
  | _ => false

namespace Masters

variable {settings : PassSettings} {c : AzureConfig} {s : HandlerState} {now : Timestamp}
  {source : MastersStage} {trace : List Asked} {call : Call} {α β : Type}

/-- The master that a stage chooses in a listing. -/
def chosen (source : MastersStage) (l : List Instance) : Option Instance :=
  match source with
  | .masterInstancesUpgrading => l.find? fun v => !v.latest
  | _ => l.head?

/-- The calls that are about a master. -/
inductive Concerns (c : AzureConfig) (v : Instance) : Call → Prop
  | stopped : Concerns c v (.cloud c.group.account c.group.name
      (.deallocate (scaleSetOf c) v.instanceId))
  | updated : Concerns c v (updateOf c v.instanceId)
  | reimaged : Concerns c v (reimageOf c v.instanceId)
  | started : Concerns c v (.cloud c.group.account c.group.name
      (.start (scaleSetOf c) v.instanceId))
  | copied {disk : String} (hdisk : (v.diskAt Etcd.diskUnit).bind (fun d => d.managedDisk.join) =
    some disk) :
    Concerns c v (.cloud c.group.account c.group.name
      (.putSnapshot (Name.snapshotOf backupDisk) (Etcd.snapshot v.location (some disk) backupDisk)))

/-! ## Programs that keep to one master -/

/-- Whether a call neither touches a master nor lists them. -/
def Quiet (c : AzureConfig) (call : Call) : Prop := call.touches = false ∧ call ≠ listOf c

/-- Whether a call may be made behind a listing: it touches no master but the one that is chosen. -/
def Fits (source : MastersStage) (c : AzureConfig) (l : List Instance) (call : Call) : Prop :=
  call ≠ listOf c ∧ (call.touches = true → ∃ v, chosen source l = some v ∧ Concerns c v call)

/-- Whether a program lists the masters once, and touches only the one that is chosen then. -/
structure KeepsToOne (source : MastersStage) (c : AzureConfig) (p : Program α) : Prop where
  once : ∀ {trace}, Issues p trace (listOf c) → ∀ a ∈ trace, a.call ≠ listOf c
  one : ∀ {trace call}, Issues p trace call → call.touches = true → ∃ l v,
    ⟨listOf c, .ok l⟩ ∈ trace ∧ chosen source l = some v ∧ Concerns c v call

namespace KeepsToOne

/-- A program that does neither keeps to one. -/
theorem quiet {p : Program α} (hp : Asks (Quiet c) p) : KeepsToOne source c p where
  once hissue := absurd rfl (hp.of_issues hissue).2
  one hissue htouches := by
    rw [(hp.of_issues hissue).1] at htouches
    cases htouches

/-- Such a program may come before one that keeps to one. -/
theorem behind {p : Program α} {next : α → Program β} (hp : Asks (Quiet c) p)
    (hnext : ∀ a, KeepsToOne source c (next a)) : KeepsToOne source c (p.bind next) where
  once hissue := by
    rcases issues_bind.1 hissue with hissue | ⟨a, before, after, rfl, hfirst, hissue⟩
    · exact absurd rfl (hp.of_issues hissue).2
    · intro x hx
      rcases List.mem_append.1 hx with hx | hx
      · obtain ⟨earlier, later, rfl⟩ := List.append_of_mem hx
        exact (hp.of_issues (Path.issues_of_append earlier later hfirst)).2
      · exact (hnext a).once hissue x hx
  one hissue htouches := by
    rcases issues_bind.1 hissue with hissue | ⟨a, before, after, rfl, -, hissue⟩
    · rw [(hp.of_issues hissue).1] at htouches
      cases htouches
    · obtain ⟨l, v, hlist, hchosen, hconcerns⟩ := (hnext a).one hissue htouches
      exact ⟨l, v, List.mem_append_right _ hlist, hchosen, hconcerns⟩

/-- Behind a listing only what fits it may be done. -/
theorem listing {next : List Instance → Program α} (hnext : ∀ l, Asks (Fits source c l) (next l)) :
    KeepsToOne source c ((instances c).bind next) where
  once hissue := by
    rcases issues_bind.1 hissue with hlist | ⟨l, before, after, rfl, -, hissue⟩
    · obtain ⟨rfl, -⟩ := issues_groupCall.1 hlist
      exact fun a ha => by cases ha
    · exact absurd rfl ((hnext l).of_issues hissue).1
  one hissue htouches := by
    rcases issues_bind.1 hissue with hlist | ⟨l, before, after, rfl, hlist, hissue⟩
    · rw [(issues_groupCall.1 hlist).2] at htouches
      cases htouches
    · obtain ⟨v, hchosen, hconcerns⟩ := ((hnext l).of_issues hissue).2 htouches
      refine ⟨l, v, ?_, hchosen, hconcerns⟩
      rw [yields_groupCall.1 hlist]
      exact List.mem_append_left _ List.mem_cons_self

/-- The same for what is done about the first master. -/
theorem first {next : Instance → Program α}
    (hnext : ∀ v others, Asks (Fits source c (v :: others)) (next v)) :
    KeepsToOne source c ((firstInstance c).bind next) := by
  unfold firstInstance
  rw [bind_eq, bind_assoc]
  refine listing fun l => ?_
  cases l with
  | nil => trivial
  | cons v others => exact hnext v others

/-- A stage that leaves the map keeps to one when its program does. -/
theorem keeping {p : Program (Transition MastersStage)} (hp : KeepsToOne source c p) :
    KeepsToOne source c (keeping s p) where
  once hissue := hp.once (issues_keeping hissue)
  one hissue := hp.one (issues_keeping hissue)

end KeepsToOne

/-! ## The stages -/

/-- A call that neither touches a master nor lists them fits each listing. -/
theorem Quiet.fits {l : List Instance} (h : Quiet c call) : Fits source c l call :=
  ⟨h.2, fun htouches => by rw [h.1] at htouches; cases htouches⟩

/-- A call about the chosen master fits. -/
theorem Concerns.fits {l : List Instance} {v : Instance} (hchosen : chosen source l = some v)
    (h : Concerns c v call) : Fits source c l call := by
  refine ⟨?_, fun _ => ⟨v, hchosen, h⟩⟩
  cases h <;> exact fun h => by cases h

theorem quiet_wait (operation : Operation) :
    Quiet c (waitOf c operation) := ⟨rfl, fun h => by cases h⟩

theorem quiet_view (inst : String) :
    Quiet c (.cloud c.group.account c.group.name (.instanceView (scaleSetOf c) inst)) :=
  ⟨rfl, fun h => by cases h⟩

/-- The chosen master may be updated. -/
theorem fits_updateInstance {l : List Instance} {v : Instance}
    (hchosen : chosen source l = some v) :
    Asks (Fits source c l) (updateInstance c v.instanceId) :=
  asks_updateInstance _ (Concerns.updated.fits hchosen) fun operation => (quiet_wait operation).fits

/-- And it may be reimaged. -/
theorem fits_reimageInstance {l : List Instance} {v : Instance}
    (hchosen : chosen source l = some v) :
    Asks (Fits source c l) (reimageInstance c v.instanceId) :=
  asks_reimageInstance _ (Concerns.reimaged.fits hchosen) fun operation =>
    (quiet_wait operation).fits

/-- What is done with the disk of a master is done with the one at its first unit. -/
theorem asks_diskOf {P : Call → Prop} {v : Instance} {next : String → Program β}
    (hnext : ∀ disk, (v.diskAt Etcd.diskUnit).bind (fun d => d.managedDisk.join) = some disk →
      Asks P (next disk)) :
    Asks P ((diskOf c v).bind next) := by
  unfold diskOf
  cases hdisk : (v.diskAt Etcd.diskUnit).bind (fun d => d.managedDisk.join) with
  | none => trivial
  | some disk => exact hnext disk hdisk

theorem keepsToOne_stop : KeepsToOne .stopMasters c (stop settings c) := by
  refine .first fun v others => .bind (.groupCall (quiet_view _).fits) fun view => ?_
  split
  · trivial
  · exact .bind (.groupCall (Concerns.stopped.fits rfl)) fun _ => trivial

theorem keepsToOne_backUp : KeepsToOne .ensureSnapshot c (backUp settings c) := by
  have hfind : Asks (Quiet c) (findBackup c) :=
    .bind (.groupCall ⟨rfl, fun h => by cases h⟩) fun _ => trivial
  refine .behind hfind fun found => ?_
  cases found with
  | some snapshot =>
    refine .quiet ?_
    dsimp only
    split <;> trivial
  | none =>
    exact .first fun v others => asks_diskOf fun disk hdisk =>
      .bind (.groupCall ((Concerns.copied hdisk).fits rfl)) fun _ => trivial

theorem keepsToOne_update : KeepsToOne .updateMaster c (update c) := by
  refine .first fun v others => ?_
  split
  · trivial
  · exact .bind (fits_updateInstance rfl) fun _ => trivial

theorem keepsToOne_reimage : KeepsToOne .reimageMaster c (reimage settings c) := by
  refine .first fun v others => ?_
  split
  · refine .bind (.groupCall (quiet_view _).fits) fun view => ?_
    split
    · trivial
    · exact .bind (fits_reimageInstance rfl) fun _ => trivial
  · trivial

theorem keepsToOne_start : KeepsToOne .startMaster c (start settings c) := by
  refine .first fun v others => ?_
  split
  · exact .bind (.groupCall (Concerns.started.fits rfl)) fun _ => trivial
  · trivial

theorem keepsToOne_checkUpgrade :
    KeepsToOne .clusterUpgradeRequirementCheck c (checkUpgrade c) := by
  refine .listing fun l => ?_
  split <;> trivial

theorem keepsToOne_upgrade : KeepsToOne .masterInstancesUpgrading c (upgrade settings c) := by
  refine .listing fun l => ?_
  split
  · trivial
  · rename_i v hfind
    exact .bind (fits_updateInstance hfind) fun _ => .bind (fits_reimageInstance hfind) fun _ =>
      trivial

/-- Whether a stage lists the masters. -/
def lists : MastersStage → Bool
  | .stopMasters | .ensureSnapshot | .updateMaster | .reimageMaster | .startMaster
  | .clusterUpgradeRequirementCheck | .masterInstancesUpgrading => true
  | _ => false

/-- The other stages have nothing to do with the masters themselves. -/
theorem quiet_of_calls (h : source.calls call) (hsource : lists source = false) : Quiet c call := by
  constructor
  · cases htouches : call.touches with
    | false => rfl
    | true =>
      unfold Call.touches at htouches
      split at htouches
      case h_6 => cases htouches
      all_goals cases source <;> first | exact h.elim | cases hsource
  · rintro rfl
    cases source <;> first | exact h.elim | cases hsource

/-- Every stage keeps to one master. -/
theorem keepsToOne_stage (settings : PassSettings) (c : AzureConfig) (s : HandlerState)
    (source : MastersStage) : KeepsToOne source c (stage settings c s source) := by
  have hquiet : lists source = false → KeepsToOne source c (stage settings c s source) :=
    fun hsource =>
    .quiet ((asks_stage settings c s source).mono fun call h => quiet_of_calls h hsource)
  cases source with
  | stopMasters => exact keepsToOne_stop.keeping
  | ensureSnapshot => exact keepsToOne_backUp.keeping
  | updateMaster => exact keepsToOne_update.keeping
  | reimageMaster => exact keepsToOne_reimage.keeping
  | startMaster => exact keepsToOne_start.keeping
  | clusterUpgradeRequirementCheck => exact keepsToOne_checkUpgrade.keeping
  | masterInstancesUpgrading => exact keepsToOne_upgrade.keeping
  | provisioningSuccessful => exact .quiet trivial
  | etcdMigrationCheck => exact .quiet trivial
  | _ => exact hquiet rfl

/-! ## Reimaging behind an update -/

/-- A stage that reimages a master behind an update has waited for the end of the update. -/
theorem waited_of_reimage {before between : List Asked} {u : Asked}
    (h : Issues (stage settings c s source) (before ++ u :: between) call)
    (hu : u.call.isUpdate = true) (hr : call.isReimage = true) :
    ∃ inst operation, u = ⟨updateOf c inst, .ok operation⟩ ∧
    ⟨waitOf c operation, .ok ()⟩ ∈ between := by
  obtain ⟨resume, path⟩ := id h
  have hupdate := (asks_stage settings c s source).of_issues (path.issues_of_append before between)
  have hreimage := (asks_stage settings c s source).of_issues h
  -- One stage does both.
  have hsource : source = .masterInstancesUpgrading := by
    unfold Call.isUpdate at hu
    unfold Call.isReimage at hr
    split at hu
    · rename_i heq
      rw [heq] at hupdate
      split at hr
      · cases source <;> first | rfl | exact hupdate.elim | exact hreimage.elim
      · cases hr
    · cases hu
  subst hsource
  rcases issues_upgrade (issues_keeping h) with ⟨-, rfl⟩ |
    ⟨l, v, -, ⟨-, rfl⟩ | ⟨operation, -, rfl⟩ |
    ⟨operation, htrace, -⟩ | ⟨operation, reimaged, -, rfl⟩⟩
  · cases hr
  · cases hr
  · cases hr
  · match before, htrace with
    | [], htrace =>
      cases htrace
      cases hu
    | [_], htrace =>
      cases htrace
      exact ⟨v.instanceId, operation, rfl, List.mem_cons_self⟩
    | [_, _], htrace =>
      cases htrace
      cases hu
    | _ :: _ :: _ :: _, htrace => exact absurd (congrArg List.length htrace) (by simp)
  · cases hr

/-! ## A pass -/

/-- A pass lists the masters once. -/
theorem listing_unique {trace : List Asked} {q : Program Nat} {l l' : List Instance}
    (path : Path .any (ensure settings now c) () trace q ()) (hl : ⟨listOf c, .ok l⟩ ∈ trace)
    (hl' : ⟨listOf c, .ok l'⟩ ∈ trace) : l = l' := by
  have honce : ∀ {before after : List Asked} {r}, trace = before ++ ⟨listOf c, r⟩ :: after →
      ∀ a ∈ before, a.call ≠ listOf c := by
    rintro before after r rfl
    rcases issues_ensure (path.issues_of_append before after) with hissue | ⟨values, hsave⟩
    · exact (keepsToOne_stage settings c (stateOf c) _).once hissue
    · cases hsave
  obtain ⟨before, after, rfl⟩ := List.append_of_mem hl
  rcases List.mem_append.1 hl' with hbefore | hrest
  · exact absurd rfl (honce rfl _ hbefore)
  rcases List.mem_cons.1 hrest with heq | hafter
  · cases heq
    rfl
  · -- The first listing would come before the second one.
    obtain ⟨between, later, rfl⟩ := List.append_of_mem hafter
    have htrace : before ++ ⟨listOf c, .ok l⟩ :: (between ++ ⟨listOf c, .ok l'⟩ :: later) =
        (before ++ ⟨listOf c, .ok l⟩ :: between) ++ ⟨listOf c, .ok l'⟩ :: later := by simp
    exact absurd rfl (honce htrace _ (List.mem_append_right _ List.mem_cons_self))

/-- **At most one master is touched in a pass.** Whatever the calls of a pass are answered, those
that take a master down or up again or copy a disk are about one master of its only listing: the
first one, or, where the masters are moved to the latest model, the first that is not there yet. And
none is reimaged behind an update before that has come to a good end. -/
theorem touches_one {q : Program Nat} (path : Path .any (ensure settings now c) () trace q ()) :
    ((∀ a ∈ trace, a.call.touches = false) ∨
      ∃ l v, ⟨listOf c, .ok l⟩ ∈ trace ∧ (∀ l', ⟨listOf c, .ok l'⟩ ∈ trace → l' = l) ∧
        chosen ((stateOf c).stage MastersStage) l = some v ∧
        ∀ a ∈ trace, a.call.touches = true → Concerns c v a.call) ∧
    ∀ before u between r after, trace = before ++ u :: (between ++ r :: after) →
      u.call.isUpdate = true → r.call.isReimage = true →
      ∃ inst operation, u = ⟨updateOf c inst, .ok operation⟩ ∧
      ⟨waitOf c operation, .ok ()⟩ ∈ between := by
  -- Each call that touches a master comes behind a listing from which that master is chosen.
  have hone : ∀ a ∈ trace, a.call.touches = true → ∃ l v, ⟨listOf c, .ok l⟩ ∈ trace ∧
      chosen ((stateOf c).stage MastersStage) l = some v ∧ Concerns c v a.call := by
    intro a ha htouches
    obtain ⟨before, after, rfl⟩ := List.append_of_mem ha
    rcases issues_ensure (path.issues_of_append before after) with hissue | ⟨values, hsave⟩
    · obtain ⟨l, v, hlist, hchosen, hconcerns⟩ :=
        (keepsToOne_stage settings c (stateOf c) _).one hissue htouches
      exact ⟨l, v, List.mem_append_left _ hlist, hchosen, hconcerns⟩
    · rw [hsave] at htouches
      cases htouches
  constructor
  · by_cases hany : ∃ a ∈ trace, a.call.touches = true
    · obtain ⟨a, ha, htouches⟩ := hany
      obtain ⟨l, v, hlist, hchosen, -⟩ := hone a ha htouches
      refine Or.inr ⟨l, v, hlist, fun l' hl' => listing_unique path hl' hlist, hchosen, ?_⟩
      intro b hb hb'
      obtain ⟨l', v', hlist', hchosen', hconcerns⟩ := hone b hb hb'
      cases listing_unique path hlist hlist'
      cases hchosen.symm.trans hchosen'
      exact hconcerns
    · exact Or.inl fun a ha => Bool.eq_false_iff.2 fun htouches => hany ⟨a, ha, htouches⟩
  · rintro before u between r after rfl hu hr
    rw [← List.cons_append, ← List.append_assoc] at path
    rcases issues_ensure (path.issues_of_append (before ++ u :: between) after) with hissue |
      ⟨values, hsave⟩
    · exact waited_of_reimage hissue hu hr
    · rw [hsave] at hr
      cases hr

/-- A world of three masters, the first of which runs the latest model. -/
def mixedWorld : World :=
  { oldWorld with
    cluster := { oldWorld.cluster with
      instances := Dict.empty.insert (scaleSetOf smallConfig) [
        { instanceId := "0", location := "westeurope", latestModel := some true },
        { instanceId := "1", location := "westeurope", latestModel := some false },
        { instanceId := "2", location := "westeurope", latestModel := some false }] }
    saves := [⟨StatusTarget.ofConfig smallConfig, handler,
      Dict.empty.insert HandlerState.stageKey (Stage.name MastersStage.masterInstancesUpgrading)⟩] }

/-- The calls of a pass over these masters, in which nothing fails. -/
def mixedTrace : List Asked :=
  (advance World.handler passLimit (ensure smallSettings ⟨0, 0⟩ (stored smallConfig mixedWorld))
    mixedWorld).1

/-- Whether a listing, if a call is one, leads to the second master. -/
def leadsToSecond (a : Asked) : Bool :=
  match a with
  | ⟨.cloud _ _ (.listInstances _), .ok l⟩ =>
    decide ((chosen .masterInstancesUpgrading l).map Instance.instanceId = some "1")
  | _ => true

/-- The pass updates and reimages the second master only, and waits for its update in between. -/
theorem touches_one_mixed :
    (∃ v : Instance, v.instanceId = "1" ∧
      ∀ a ∈ mixedTrace, a.call.touches = true → Concerns (stored smallConfig mixedWorld) v a.call) ∧
    ∃ list u w r rest, mixedTrace = list :: u :: w :: r :: rest ∧ u.call.isUpdate = true ∧
      r.call.isReimage = true ∧ ∃ inst operation,
        u = ⟨updateOf (stored smallConfig mixedWorld) inst, .ok operation⟩ ∧
        w = ⟨waitOf (stored smallConfig mixedWorld) operation, .ok ()⟩ := by
  have path :
      Path World.handler.faulty (ensure smallSettings ⟨0, 0⟩ (stored smallConfig mixedWorld))
        mixedWorld
      mixedTrace _ _ := path_advance (fun call w => Handler.Turns.answered) rfl passLimit _ _
  have hkinds : (mixedTrace.map fun a => (a.call.isUpdate, a.call.isReimage)) =
      [(false, false), (true, false), (false, false), (false, true), (false, false),
        (false, false)] := by
    decide +kernel
  have hsecond : mixedTrace.all leadsToSecond = true := by decide +kernel
  have hstage : (stateOf (stored smallConfig mixedWorld)).stage MastersStage =
      .masterInstancesUpgrading := by
    decide +kernel
  obtain ⟨list, _, hlist, -, hkinds⟩ := List.map_eq_cons_iff.1 hkinds
  obtain ⟨u, _, rfl, hu, hkinds⟩ := List.map_eq_cons_iff.1 hkinds
  obtain ⟨w, _, rfl, -, hkinds⟩ := List.map_eq_cons_iff.1 hkinds
  obtain ⟨r, rest, rfl, hr, -⟩ := List.map_eq_cons_iff.1 hkinds
  obtain ⟨hu, -⟩ := Prod.mk.inj hu
  obtain ⟨-, hr⟩ := Prod.mk.inj hr
  obtain ⟨hone, hwaited⟩ := touches_one path.forget
  constructor
  · rcases hone with hnone | ⟨l, v, hl, -, hchosen, hconcerns⟩
    · have hu' := hnone u (by rw [hlist]; simp)
      unfold Call.isUpdate at hu
      split at hu
      · rename_i heq
        rw [heq] at hu'
        cases hu'
      · cases hu
    · rw [hstage] at hchosen
      have hfound := of_decide_eq_true (List.all_eq_true.1 hsecond _ hl)
      rw [hchosen] at hfound
      exact ⟨v, Option.some.inj hfound, hconcerns⟩
  · obtain ⟨inst, operation, hupdate, hwait⟩ := hwaited [list] u [w] r rest hlist hu hr
    exact ⟨list, u, w, r, rest, hlist, hu, hr, inst, operation, hupdate,
      (List.mem_singleton.1 hwait).symm⟩

end Masters

end TenantFleet
