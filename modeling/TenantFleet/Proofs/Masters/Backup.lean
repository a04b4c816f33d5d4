/-
# What backing up the masters asks and ends with

Each stage of the backup leaves off only when it has seen what the next one relies on, and nothing
is withdrawn or copied before.

* `FoundLegacy`, `SawDrained`, `SawStopped`, `SawBackup` : what can be seen in the calls of a pass;
* `advances_begin` to `advances_backUp` : what was seen when a stage of the backup goes on;
* `withdraws` and `copies` : what was seen when a drain request is withdrawn, or a snapshot
  requested.
-/
import TenantFleet.Proofs.Masters.Stages

namespace TenantFleet

open Program

namespace Masters

/-! ## What a pass has seen -/

/-- Whether a pass found a scale set that is older than the version of its settings. -/
def FoundLegacy (settings : PassSettings) (c : AzureConfig) (asked : List Asked) : Prop :=
  ∃ s : ScaleSet, ⟨.cloud c.group.account c.group.name (.getScaleSet (scaleSetOf c)),
    .ok s⟩ ∈ asked ∧ isOlder (s.tags.get? Tag.operatorVersion) settings.version = true

/-- Whether a call found such a scale set. -/
def legacyIn (settings : PassSettings) (c : AzureConfig) : Asked → Bool
  | ⟨.cloud account group (.getScaleSet name), .ok s⟩ =>
    account = c.group.account ∧ group = c.group.name ∧ name = scaleSetOf c ∧
      isOlder (s.tags.get? Tag.operatorVersion) settings.version = true
  | _ => false

/-- A pass found such a scale set when one of its calls did. -/
theorem foundLegacy_iff {settings : PassSettings} {c : AzureConfig} {asked : List Asked} :
    FoundLegacy settings c asked ↔ asked.any (legacyIn settings c) = true := by
  rw [List.any_eq_true]
  constructor
  · rintro ⟨s, hs, holder⟩
    exact ⟨_, hs, decide_eq_true ⟨rfl, rfl, rfl, holder⟩⟩
  · rintro ⟨a, ha, hfound⟩
    unfold legacyIn at hfound
    split at hfound
    · obtain ⟨rfl, rfl, rfl, holder⟩ := of_decide_eq_true hfound
      exact ⟨_, ha, holder⟩
    · cases hfound

instance (settings : PassSettings) (c : AzureConfig) (asked : List Asked) :
    Decidable (FoundLegacy settings c asked) :=
  decidable_of_iff _ foundLegacy_iff.symm

/-- Whether a pass was told the master nodes. -/
def ToldNodes (c : AzureConfig) (asked : List Asked) (nodes : List Node) : Prop :=
  ⟨.tenant c.metadata.spaceName c.clusterId (.listNodes (some Name.masterSelector)),
    .ok nodes⟩ ∈ asked

/-- Whether a pass was told the drain requests of a cluster. -/
def ToldDrains (clusterId : String) (asked : List Asked) (drains : List DrainerConfig) : Prop :=
  ⟨.listDrains clusterId clusterId, .ok drains⟩ ∈ asked

/-- Whether a pass saw that the request to drain a node has come to an end. -/
def SawDrained (clusterId : String) (node : String) (asked : List Asked) : Prop :=
  ∃ drains, ToldDrains clusterId asked drains ∧ ∃ d ∈ drains, d.nodeName = node ∧ d.finished = true

/-- Whether a pass saw that the first master is deallocated. -/
def SawStopped (c : AzureConfig) (asked : List Asked) (v : Instance) : Prop :=
  (∃ rest, ⟨.cloud c.group.account c.group.name (.listInstances (scaleSetOf c)), .ok (v :: rest)⟩ ∈
      asked) ∧
    ∃ view, ⟨.cloud c.group.account c.group.name (.instanceView (scaleSetOf c) v.instanceId),
      .ok view⟩ ∈ asked ∧ view.deallocated = true

/-- Whether a pass saw a snapshot of the disk of an old master that is ready. -/
def SawBackup (c : AzureConfig) (asked : List Asked) (s : Snapshot) : Prop :=
  (∃ l, ⟨.cloud c.group.account c.group.name .listSnapshots, .ok l⟩ ∈ asked ∧
      l.find? (Etcd.isSnapshotOf backupDisk) = some s) ∧ s.succeeded = true

/-- Whether a pass saw a disk at the first unit of the first master. -/
def SawDisk (c : AzureConfig) (asked : List Asked) (v : Instance) (source : String) : Prop :=
  (∃ rest, ⟨.cloud c.group.account c.group.name (.listInstances (scaleSetOf c)), .ok (v :: rest)⟩ ∈
      asked) ∧
    (v.diskAt Etcd.diskUnit).bind (fun d => d.managedDisk.join) = some source

variable {settings : PassSettings} {c : AzureConfig} {trace trace' : List Asked}
  {t : Transition MastersStage} {v : Instance} {s : Snapshot}

/-- What was seen stays seen. -/
theorem SawStopped.mono (h : SawStopped c trace v) (hsub : trace ⊆ trace') :
    SawStopped c trace' v := by
  obtain ⟨⟨rest, hlist⟩, view, hview, hdeallocated⟩ := h
  exact ⟨⟨rest, hsub hlist⟩, view, hsub hview, hdeallocated⟩

theorem SawBackup.mono (h : SawBackup c trace s) (hsub : trace ⊆ trace') :
    SawBackup c trace' s := by
  obtain ⟨⟨l, hl, hfind⟩, hs⟩ := h
  exact ⟨⟨l, hsub hl, hfind⟩, hs⟩

/-! ## Deciding about a backup -/

/-- Masters are backed up exactly when they are found to be of an older version. -/
theorem advances_begin (h : Yields (begin settings c) trace t) :
    t.stage = .backupEtcdDisk ↔ FoundLegacy settings c trace := by
  obtain ⟨found, before, after, rfl, hfound, hend⟩ := yields_bind.1 h
  rcases yields_find?.1 hfound with ⟨s, rfl, rfl⟩ | ⟨e, -, rfl, rfl⟩
  · dsimp only at hend
    by_cases hold : isOlder (s.tags.get? Tag.operatorVersion) settings.version = true
    · rw [if_pos hold] at hend
      obtain ⟨rfl, hend⟩ := yields_done.1 hend
      cases hend
      exact iff_of_true rfl ⟨s, List.mem_cons_self, hold⟩
    · rw [if_neg hold] at hend
      obtain ⟨rfl, hend⟩ := yields_done.1 hend
      cases hend
      refine iff_of_false (by decide) ?_
      rintro ⟨s', hs', holder⟩
      cases List.mem_singleton.1 hs'
      exact hold holder
  · obtain ⟨rfl, hend⟩ := yields_done.1 hend
    cases hend
    refine iff_of_false (by decide) ?_
    rintro ⟨s', hs', -⟩
    cases List.mem_singleton.1 hs'

/-! ## Drain requests -/

/-- Whether a request to drain a node was accepted, or had been made before. -/
def Accepted : Except TenantError DrainerConfig → Prop
  | .ok _ => True
  | .error e => e.isAlreadyExists = true

/-- A request to drain a node goes on when it was accepted. -/
theorem yields_requestDrain {n : Node} (h : Yields (requestDrain c n) trace ()) :
    ∃ r, ⟨.createDrain (drainRequest c n), r⟩ ∈ trace ∧ Accepted r := by
  obtain ⟨r, after, rfl, hr⟩ := yields_ask.1 h
  refine ⟨r, List.mem_cons_self, ?_⟩
  cases r with
  | ok d => trivial
  | error e =>
    dsimp only at hr
    split at hr
    · assumption
    · cases (yields_done.1 hr).2

/-- The stage that requests the drains goes on when all nodes it was told have a request. -/
theorem advances_requestDrains (h : Yields (requestDrains settings c) trace t)
    (ht : t.stage ≠ .backupEtcdDisk) :
    ∃ nodes, ToldNodes c trace nodes ∧
      ∀ n ∈ nodes, ∃ r, ⟨.createDrain (drainRequest c n), r⟩ ∈ trace ∧ Accepted r := by
  obtain ⟨tenant, _, after, rfl, hopen, hrest⟩ := yields_bind.1 h
  cases tenant with
  | none =>
    cases (yields_done.1 hrest).2
    exact absurd rfl ht
  | some tenant =>
    -- The tenant that was opened is that of the cluster.
    obtain ⟨reachable, _, _, rfl, -, hopened⟩ := yields_bind.1 hopen
    have htenant : tenant = ⟨c.metadata.spaceName, c.clusterId⟩ := by
      have heq := Except.ok.inj (yields_done.1 hopened).2
      split at heq
      · exact (Option.some.inj heq).symm
      · cases heq
    subst htenant
    obtain ⟨nodes, _, rest, rfl, hnodes, hforEach⟩ := yields_bind.1 hrest
    obtain ⟨_, requests, _, rfl, hrequests, -⟩ := yields_bind.1 hforEach
    cases yields_call.1 hnodes
    refine ⟨nodes, List.mem_append_right _ List.mem_cons_self, fun n hn => ?_⟩
    obtain ⟨own, hown, hsub⟩ := yields_forEach hrequests hn
    obtain ⟨r, hr, haccepted⟩ := yields_requestDrain hown
    refine ⟨r, ?_, haccepted⟩
    exact List.mem_append_right _ (List.mem_append_right _ (List.mem_append_left _ (hsub hr)))

/-- Only the nodes of a cluster are asked to be drained. -/
theorem asks_drainRequest :
    Asks (fun call => ∀ d, call = .createDrain d → ∃ n, d = drainRequest c n)
      (requestDrains settings c) := by
  refine .bind (.bind (.call (by rintro _ ⟨⟩)) fun _ => trivial) fun tenant => ?_
  cases tenant with
  | none => trivial
  | some tenant =>
    refine .bind (.call (by rintro _ ⟨⟩)) fun nodes => .bind (.forEach fun n => ?_) fun _ => trivial
    refine ⟨?_, fun r => ?_⟩
    · rintro _ ⟨⟩
      exact ⟨n, rfl⟩
    · cases r with
      | ok _ => trivial
      | error e =>
        dsimp only
        split <;> trivial

/-- The stage that waits for the drains goes on when all requests it was told have come to an
end. -/
theorem advances_awaitDrains (h : Yields (awaitDrains settings c) trace t)
    (ht : t.stage ≠ .waitForMastersToDrain) :
    ∃ drains, ToldDrains c.clusterId trace drains ∧ drains.all DrainerConfig.finished = true := by
  obtain ⟨drains, _, after, rfl, hdrains, hrest⟩ := yields_bind.1 h
  cases yields_call.1 hdrains
  refine ⟨drains, List.mem_append_left _ List.mem_cons_self, ?_⟩
  split at hrest
  · assumption
  · cases (yields_done.1 hrest).2
    exact absurd rfl ht

/-- A drain request is withdrawn when it was told, and all requests have come to an end. -/
theorem withdraws {space name : String}
    (h : Issues (awaitDrains settings c) trace (.deleteDrain space name)) :
    space = c.clusterId ∧ ∃ drains, ToldDrains c.clusterId trace drains ∧
      ∃ d ∈ drains, d.finished = true ∧ name = d.metadata.anyName := by
  rcases issues_bind.1 h with hdrains | ⟨drains, _, after, rfl, hdrains, hrest⟩
  · cases (issues_call.1 hdrains).2
  · cases yields_call.1 hdrains
    split at hrest
    · rename_i hall
      rcases issues_bind.1 hrest with hrest | ⟨_, _, _, _, -, hend⟩
      · obtain ⟨d, hd, own, hown⟩ := issues_forEach hrest
        rcases issues_ask.1 hown with ⟨-, hcall⟩ | ⟨r, rest, -, hend⟩
        · cases hcall
          exact ⟨rfl, drains, List.mem_append_left _ List.mem_cons_self, d, hd,
            List.all_eq_true.1 hall d hd, rfl⟩
        · unfold Tenant.unlessMissing at hend
          split at hend
          · exact absurd hend not_issues_done
          · split at hend <;> exact absurd hend not_issues_done
      · exact absurd hend not_issues_done
    · exact absurd hrest not_issues_done

/-! ## Stopping the first master -/

/-- The first master is one of those that were told. -/
theorem yields_firstInstance {v : Instance} :
    Yields (firstInstance c) trace v ↔ ∃ rest,
      trace = [⟨.cloud c.group.account c.group.name (.listInstances (scaleSetOf c)),
        .ok (v :: rest)⟩] := by
  unfold firstInstance instances
  constructor
  · intro h
    obtain ⟨l, before, after, rfl, hl, hrest⟩ := yields_bind.1 h
    cases yields_groupCall.1 hl
    cases l with
    | nil => cases (yields_done.1 hrest).2
    | cons v' rest =>
      obtain ⟨rfl, hrest⟩ := yields_done.1 hrest
      cases hrest
      exact ⟨rest, rfl⟩
  · rintro ⟨rest, rfl⟩
    exact yields_bind.2 ⟨v :: rest, _, [], rfl, yields_groupCall.2 rfl, yields_done.2 ⟨rfl, rfl⟩⟩

/-- Looking for the first master is one call. -/
theorem issues_firstInstance {call : Call} (h : Issues (firstInstance c) trace call) :
    call = .cloud c.group.account c.group.name (.listInstances (scaleSetOf c)) := by
  rcases issues_bind.1 h with h | ⟨l, _, _, -, -, h⟩
  · exact (issues_groupCall.1 h).2
  · split at h <;> exact absurd h not_issues_done

/-- The stage that stops the first master goes on when that is deallocated. -/
theorem advances_stop (h : Yields (stop settings c) trace t) (ht : t.stage ≠ .stopMasters) :
    ∃ v, SawStopped c trace v := by
  obtain ⟨v, _, after, rfl, hfirst, hlook⟩ := yields_bind.1 h
  obtain ⟨others, rfl⟩ := yields_firstInstance.1 hfirst
  obtain ⟨view, _, rest, rfl, hview, hrest⟩ := yields_bind.1 hlook
  cases yields_groupCall.1 hview
  refine ⟨v, ⟨others, List.mem_cons_self⟩, view, ?_, ?_⟩
  · exact List.mem_append_right _ (List.mem_append_left _ List.mem_cons_self)
  · split at hrest
    · assumption
    · obtain ⟨_, _, _, -, -, hend⟩ := yields_bind.1 hrest
      cases (yields_done.1 hend).2
      exact absurd rfl ht

/-! ## Copying the disk -/

/-- The backup is looked for among the snapshots that were told. -/
theorem yields_findBackup {found : Option Snapshot} :
    Yields (findBackup c) trace found ↔ ∃ l,
      trace = [⟨.cloud c.group.account c.group.name .listSnapshots, .ok l⟩] ∧
        found = l.find? (Etcd.isSnapshotOf backupDisk) := by
  unfold findBackup
  constructor
  · intro h
    obtain ⟨l, before, after, rfl, hl, hend⟩ := yields_bind.1 h
    cases yields_groupCall.1 hl
    obtain ⟨rfl, hfound⟩ := yields_done.1 hend
    exact ⟨l, rfl, (Except.ok.inj hfound).symm⟩
  · rintro ⟨l, rfl, rfl⟩
    exact yields_bind.2 ⟨l, _, [], rfl, yields_groupCall.2 rfl, yields_done.2 ⟨rfl, rfl⟩⟩

/-- The stage that takes the backup goes on when there is one. -/
theorem advances_backUp (h : Yields (backUp settings c) trace t) (ht : t.stage ≠ .ensureSnapshot) :
    ∃ s, SawBackup c trace s := by
  obtain ⟨found, _, after, rfl, hfind, hrest⟩ := yields_bind.1 h
  obtain ⟨l, rfl, hfound⟩ := yields_findBackup.1 hfind
  cases found with
  | some s =>
    dsimp only at hrest
    split at hrest
    · rename_i hs
      exact ⟨s, ⟨l, List.mem_append_left _ List.mem_cons_self, hfound.symm⟩, hs⟩
    · cases (yields_done.1 hrest).2
      exact absurd rfl ht
  | none =>
    obtain ⟨v, _, _, -, -, hrest⟩ := yields_bind.1 hrest
    obtain ⟨source, _, _, -, -, hrest⟩ := yields_bind.1 hrest
    obtain ⟨_, _, _, -, -, hend⟩ := yields_bind.1 hrest
    cases (yields_done.1 hend).2
    exact absurd rfl ht

/-- A snapshot is requested of the disk of the first master, when there is none. -/
theorem copies {account : Account} {group name : String} {value : Snapshot}
    (h : Issues (backUp settings c) trace (.cloud account group (.putSnapshot name value))) :
    account = c.group.account ∧ group = c.group.name ∧ name = Name.snapshotOf backupDisk ∧
      (∃ l, ⟨.cloud c.group.account c.group.name .listSnapshots, .ok l⟩ ∈ trace ∧
        l.find? (Etcd.isSnapshotOf backupDisk) = none) ∧
      ∃ v source, SawDisk c trace v source ∧
        value = Etcd.snapshot v.location (some source) backupDisk := by
  rcases issues_bind.1 h with hfind | ⟨found, _, after, rfl, hfind, hrest⟩
  · rcases issues_bind.1 hfind with hlist | ⟨_, _, _, -, -, hend⟩
    · cases (issues_groupCall.1 hlist).2
    · exact absurd hend not_issues_done
  · obtain ⟨l, rfl, hfound⟩ := yields_findBackup.1 hfind
    cases found with
    | some s =>
      dsimp only at hrest
      split at hrest <;> exact absurd hrest not_issues_done
    | none =>
      rcases issues_bind.1 hrest with hfirst | ⟨v, _, rest, rfl, hfirst, hcopy⟩
      · cases issues_firstInstance hfirst
      · obtain ⟨others, rfl⟩ := yields_firstInstance.1 hfirst
        unfold diskOf at hcopy
        cases hdisk : (v.diskAt Etcd.diskUnit).bind (fun d => d.managedDisk.join) with
        | none =>
          rw [hdisk] at hcopy
          exact absurd hcopy not_issues_done
        | some source =>
          rw [hdisk] at hcopy
          rcases issues_bind.1 hcopy with hnot | ⟨source', _, _, rfl, hsource, hsend⟩
          · exact absurd hnot not_issues_done
          obtain ⟨rfl, hsource⟩ := yields_done.1 hsource
          cases hsource
          rcases issues_bind.1 hsend with hput | ⟨_, _, _, -, -, hend⟩
          · cases (issues_groupCall.1 hput).2
            refine ⟨rfl, rfl, rfl, ⟨l, List.mem_cons_self, hfound.symm⟩, v, source,
              ⟨⟨others, ?_⟩, hdisk⟩, rfl⟩
            exact List.mem_append_right _ List.mem_cons_self
          · exact absurd hend not_issues_done

end Masters

end TenantFleet
