/-
# What a master has at its first unit

A master gets a disk behind those that it has, at the first unit. Whether something is there already
is decided by the name of what is there, so a disk without a name is not seen, and then the unit
holds two disks.

* `serve` : what a pass does about one master;
* `Supplies` : that a call gives a master one more disk, the one chosen from the listing right
  before;
* `one_per_unit` : the masters that are written, and when no unit holds two disks.
-/
import TenantFleet.Proofs.Etcd.Exclusive

namespace TenantFleet.Etcd

open Program

variable {c : AzureConfig} {subscription : String} {q : Program Unit}
  {trace before after : List Asked} {call : Call} {v value : Instance} {entries : List String}
  {l listed : List Instance} {name : String}

/-! ## One master after the other -/

/-- What a pass does about one master: the entries of the members started so far are those given,
and that of its member when it has one. -/
def serve (c : AzureConfig) (subscription : String) (entries : List String) (v : Instance) :
    Program (List String) :=
  if v.succeeded then do
    let member ← ensureMember c subscription v
    if member.isEmpty then return entries else startMember c v.instanceId member entries
  else return entries

/-- The masters are served one after the other. -/
theorem attachAll_cons (c : AzureConfig) (subscription : String) (entries : List String)
    (v : Instance) (rest : List Instance) : attachAll c subscription entries (v :: rest) =
      (serve c subscription entries v).bind fun entries =>
      attachAll c subscription entries rest := by
  rw [attachAll, serve]
  split
  · simp only [bind_eq]
    rw [bind_assoc]
    congr 1
    funext member
    split
    · rfl
    · rfl
  · rfl

/-- A call that is made for the masters of a list is made for one of them, after the calls for those
before it. -/
theorem issues_attachAll (h : Issues (attachAll c subscription entries l) trace call) :
    ∃ v ∈ l, ∃ entries' before after, trace = before ++ after ∧
    Issues (serve c subscription entries' v) after call := by
  induction l generalizing entries trace with
  | nil => exact absurd h not_issues_done
  | cons v rest ih =>
    rw [attachAll_cons] at h
    rcases issues_bind.1 h with hserve | ⟨entries', before, after, rfl, -, hrest⟩
    · exact ⟨v, List.mem_cons_self, entries, [], trace, rfl, hserve⟩
    · obtain ⟨v', hv', entries'', before', after', rfl, hserve⟩ := ih hrest
      exact ⟨v', List.mem_cons_of_mem v hv', entries'', before ++ before', after',
        (List.append_assoc _ _ _).symm, hserve⟩

/-- A master is written only when it is ready and its first unit holds no disk with a name. -/
theorem issues_serve (h : Issues (serve c subscription entries v) trace call)
    (hput : Updates call) :
    v.succeeded = true ∧ memberOf v = "" ∧
      ∃ disks d, trace = [⟨.cloud c.group.account c.group.name .listDisks, .ok disks⟩] ∧
        chooseDisk (v.zone.getD "") disks = .use d ∧ call = handOver c subscription v d.name := by
  unfold serve at h
  split at h
  · rename_i hready
    rcases issues_bind.1 h with hmember | ⟨member, before, after, rfl, -, hrest⟩
    · exact ⟨hready, issues_ensureMember hmember hput⟩
    · split at hrest
      · exact absurd hrest not_issues_done
      · exact absurd hput (not_updates_of_starting ((asks_startMember c _ _ _).of_issues hrest))
  · exact absurd h not_issues_done

/-! ## Units -/

/-- Whether no unit of a master holds two disks. -/
def OnePerUnit (v : Instance) : Prop := (v.dataDisks.map DataDisk.lun).Nodup

instance (v : Instance) : Decidable (OnePerUnit v) :=
  inferInstanceAs (Decidable (v.dataDisks.map DataDisk.lun).Nodup)

/-- Whether a master is as it was, but for a disk of the cluster that is attached at the first unit,
behind the other disks. -/
structure Gains (c : AzureConfig) (subscription name : String) (v value : Instance) : Prop where
  disks : value.dataDisks = v.dataDisks ++
    [{ lun := 0, name := some name, createOption := .attach,
       managedDisk := some (some (diskId subscription c.clusterId name)) }]
  storage : value.storage = some { v.storage.getD {} with dataDisks := value.dataDisks }
  rest : value = { v with storage := value.storage }

/-- Attaching a disk adds it. -/
theorem gains_attach (c : AzureConfig) (subscription name : String) (v : Instance) :
    Gains c subscription name v (v.attach diskUnit name
      (diskId subscription c.clusterId name)) where
  disks := v.dataDisks_attach _ _ _
  storage := rfl
  rest := rfl

/-- Nothing is at a unit exactly when no disk is. -/
theorem diskAt_eq_none_iff {lun : Int} :
    v.diskAt lun = none ↔ lun ∉ v.dataDisks.map DataDisk.lun := by
  unfold Instance.diskAt
  rw [List.find?_eq_none, List.mem_map]
  constructor
  · rintro hnone ⟨d, hd, rfl⟩
    exact hnone d hd (decide_eq_true rfl)
  · intro hnot d hd hlun
    exact hnot ⟨d, hd, of_decide_eq_true hlun⟩

/-- A master that gains a disk still has one disk a unit exactly when nothing was at the first
one. -/
theorem Gains.onePerUnit_iff (h : Gains c subscription name v value) (hone : OnePerUnit v) :
    OnePerUnit value ↔ v.diskAt diskUnit = none := by
  unfold OnePerUnit at hone ⊢
  rw [h.disks, List.map_append, diskAt_eq_none_iff, List.nodup_append]
  constructor
  · rintro ⟨-, -, hdisjoint⟩ hmem
    exact hdisjoint _ hmem _ (List.mem_singleton_self _) rfl
  · intro hnot
    refine ⟨hone, List.nodup_singleton _, fun lun hlun lun' hlun' heq => ?_⟩
    subst heq
    have hfirst : lun = diskUnit := List.mem_singleton.1 hlun'
    rw [hfirst] at hlun
    exact hnot hlun

/-! ## Which masters are written -/

/-- Whether a call writes a ready master, which gains the disk that was chosen from the listing
right before. -/
structure Supplies (c : AzureConfig) (subscription : String) (before : List Asked) (call : Call)
    (v value : Instance) : Prop where
  call : call = .cloud c.group.account c.group.name
    (.putInstance (Name.masterScaleSet c.clusterId) v.instanceId value)
  ready : v.succeeded = true
  chosen : ∃ first disks d, before = first ++
    [⟨.cloud c.group.account c.group.name .listDisks, .ok disks⟩] ∧
    chooseDisk (v.zone.getD "") disks = .use d ∧ Gains c subscription d.name v value

/-- Whether a pass begins with a listing of the masters. -/
def Lists (c : AzureConfig) (trace : List Asked) (listed : List Instance) : Prop :=
  ∃ rest, trace = ⟨.cloud c.group.account c.group.name
    (.listInstances (Name.masterScaleSet c.clusterId)), .ok listed⟩ :: rest

/-- Whether a pass writes only listed masters with nothing at the first unit, which gain a disk
there and then have no more than one disk a unit. -/
def KeepsUnits (c : AzureConfig) (subscription : String) (listed : List Instance)
    (trace : List Asked) : Prop :=
  ∀ before a after, trace = before ++ a :: after → Updates a.call →
    ∃ v ∈ listed, ∃ value, Supplies c subscription before a.call v value ∧
    v.diskAt diskUnit = none ∧
      OnePerUnit value

/-- What writes a master supplies a listed one, which has no disk with a name at the first unit. -/
theorem supplies_of_issues (h : Issues (attachDisks c subscription) trace call)
    (hlisted : Lists c trace listed) (hput : Updates call) :
    ∃ v ∈ listed, ∃ value, Supplies c subscription trace call v value ∧ memberOf v = "" := by
  obtain ⟨rest, rfl⟩ := hlisted
  rcases issues_bind.1 h with hlist | ⟨found, before, after, htrace, hfound, hrest⟩
  · cases (issues_find?.1 hlist).1
  · rcases yields_find?.1 hfound with ⟨instances, rfl, rfl⟩ | ⟨e, -, rfl, rfl⟩
    · cases htrace
      obtain ⟨v, hv, entries, first, own, rfl, hserve⟩ := issues_attachAll hrest
      obtain ⟨hready, hnameless, disks, d, rfl, hchoice, rfl⟩ := issues_serve hserve hput
      exact ⟨v, hv, _, ⟨rfl, hready, _ :: first, disks, d, rfl, hchoice,
        gains_attach c subscription d.name v⟩, hnameless⟩
    · cases htrace

/-- **One disk at the first unit.** Whatever a pass over masters with one disk a unit is answered,
it writes only listed masters that are ready and have no disk with a name at the first unit. They
gain the disk that was chosen from the listing right before, and then have one disk a unit if and
only if nothing was at the first one. So all units keep to one disk when no listed master has a disk
without a name at its first unit. -/
theorem one_per_unit (path : Path .any (attachDisks c subscription) () trace q ())
    (hlisted : Lists c trace listed) (hone : ∀ v ∈ listed, OnePerUnit v) :
    (∀ before a after, trace = before ++ a :: after → Updates a.call →
      ∃ v ∈ listed, ∃ value, Supplies c subscription before a.call v value ∧ memberOf v = "" ∧
        (OnePerUnit value ↔ v.diskAt diskUnit = none)) ∧
    ((∀ v ∈ listed, memberOf v = "" → v.diskAt diskUnit = none) →
      KeepsUnits c subscription listed trace) := by
  have hwritten : ∀ before a after, trace = before ++ a :: after → Updates a.call →
      ∃ v ∈ listed, ∃ value, Supplies c subscription before a.call v value ∧ memberOf v = "" ∧
        (OnePerUnit value ↔ v.diskAt diskUnit = none) := by
    rintro before a after rfl hput
    have hbefore : Lists c before listed := by
      obtain ⟨rest, hrest⟩ := hlisted
      cases before with
      | nil =>
        obtain ⟨rfl, -⟩ := List.cons.inj hrest
        exact hput.elim
      | cons b before => exact ⟨before, congrArg (· :: before) (List.cons.inj hrest).1⟩
    obtain ⟨v, hv, value, hsupplies, hnameless⟩ :=
      supplies_of_issues (Path.issues_of_append before after path) hbefore hput
    obtain ⟨_, _, _, -, -, hgains⟩ := hsupplies.chosen
    exact ⟨v, hv, value, hsupplies, hnameless, hgains.onePerUnit_iff (hone v hv)⟩
  refine ⟨hwritten, fun hnamed before a after hsplit hput => ?_⟩
  obtain ⟨v, hv, value, hsupplies, hnameless, hiff⟩ := hwritten before a after hsplit hput
  have hnone := hnamed v hv hnameless
  exact ⟨v, hv, value, hsupplies, hnone, hiff.2 hnone⟩

/-- A master with a disk at a unit. -/
def unitMaster (inst : String) (lun : Int) (name : Option String) : Instance :=
  { bareMaster inst with
    storage := some { dataDisks := [{ lun := lun, name := name, createOption := .attach }] } }

/-- The calls of a pass over a master and one without disks. -/
def supplying (v : Instance) : List Asked :=
  (attaching World.handler (pairWorld v (bareMaster "1") [spareDisk "etcd1", spareDisk "etcd2"])).1

/-- A master with a disk at the second unit gets one at the first. -/
theorem one_per_unit_second :
    handed (supplying (unitMaster "0" 1 none)) = [("0", "etcd1"), ("1", "etcd2")] ∧
      KeepsUnits smallCluster "sub-tenant" [unitMaster "0" 1 none, bareMaster "1"]
        (supplying (unitMaster "0" 1 none)) := by
  refine ⟨by decide +kernel, (one_per_unit (path_attaching _ _) ⟨_, rfl⟩ ?_).2 ?_⟩
  · decide +kernel
  · decide +kernel

/-- A master with a disk without a name at the first unit gets a second one there. -/
theorem not_one_per_unit :
    ∃ trace q, Path .any (attachDisks smallCluster "sub-tenant") () trace q () ∧
      Lists smallCluster trace [unitMaster "0" 0 none, bareMaster "1"] ∧
      (∀ v ∈ [unitMaster "0" 0 none, bareMaster "1"], OnePerUnit v) ∧
      ¬KeepsUnits smallCluster "sub-tenant" [unitMaster "0" 0 none, bareMaster "1"] trace := by
  refine ⟨supplying (unitMaster "0" 0 none), _, path_attaching _ _, ⟨_, rfl⟩, by decide +kernel,
    fun hkeeps => ?_⟩
  have hhanded : ("0", "etcd1") ∈ handed (supplying (unitMaster "0" 0 none)) := by decide +kernel
  obtain ⟨before, a, after, hsplit, hgives⟩ := exists_of_mem_handed hhanded
  obtain ⟨v, hv, value, hsupplies, hnone, -⟩ :=
    hkeeps before a after hsplit (updates_of_handedBy hgives)
  have hinst : v.instanceId = "0" := by
    rw [hsupplies.call] at hgives
    obtain ⟨disk, -, hgiven⟩ := Option.map_eq_some_iff.1 hgives
    exact congrArg Prod.fst hgiven
  rcases List.mem_cons.1 hv with rfl | hv
  · cases hnone
  · obtain rfl := List.mem_singleton.1 hv
    revert hinst
    decide

end TenantFleet.Etcd
