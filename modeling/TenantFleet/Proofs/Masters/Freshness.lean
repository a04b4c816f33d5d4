/-
# The backup of an old master

A backup is found by its tags alone. So the one that is relied on was taken in the run, of the first
master after that was seen deallocated, exactly when no snapshot had these tags before the run
began.

* `backingUp` : surroundings in which every call may fail, and others leave the snapshots as they
  are;
* `Taken` : that a snapshot was taken in a run, when it should;
* `accepted_taken_iff` : whether the accepted backup was taken in the run.
-/
import TenantFleet.Proofs.Data.Dict
import TenantFleet.Proofs.Masters.Backup
import TenantFleet.Proofs.Masters.Run
import TenantFleet.Proofs.World.Answer

namespace TenantFleet

open Program

/-- A snapshot without what the cloud reports about its making. -/
def Snapshot.stateless (x : Snapshot) : Snapshot := { x with provisioningState := none }

/-- Whether a request changes neither snapshots nor the instances of a scale set. -/
def CloudCall.keepsCopies : CloudCall → Bool
  | .getScaleSet _ | .listInstances _ | .instanceView _ _ | .deallocate _ _ | .listSnapshots => true
  | _ => false

/-- Whether a call requests a snapshot. -/
def Call.copies : Call → Bool
  | .cloud _ _ (.putSnapshot _ _) => true
  | _ => false

namespace Masters

/-! ## The surroundings -/

/-- The IDs of the masters, in their order. -/
def idsIn (c : AzureConfig) (s : Subscription) : List String :=
  (s.instancesOf (scaleSetOf c)).map Instance.instanceId

/-- Whether two subscriptions have the same masters, and the same snapshots but for what the cloud
reports about their making. -/
structure Still (c : AzureConfig) (s s' : Subscription) : Prop where
  snapshots : ∀ name, (s'.snapshots.get? name).map Snapshot.stateless =
    (s.snapshots.get? name).map Snapshot.stateless
  ids : idsIn c s' = idsIn c s

/-- What others may do to a world: whatever they like, but for the writes of the passes, the
snapshots and the masters. -/
structure Aside (c : AzureConfig) (w w' : World) : Prop where
  saves : w'.saves = w.saves
  still : Still c w.cluster w'.cluster

/-- The surroundings of masters that are backed up: a world in memory where every call may fail,
before or after its effect, and that others change no more than they may. -/
def backingUp (c : AzureConfig) : Surroundings World := World.handler.faulty.amid (Aside c)

variable {settings : PassSettings} {c c' : AzureConfig} {w w' w₀ : World} {now : Timestamp}
  {rounds : List (Round AzureConfig)} {asked : List Asked} {q : Program Nat} {x x' : Snapshot}
  {s s' s'' : Subscription}

namespace Still

theorem refl (c : AzureConfig) (s : Subscription) : Still c s s := ⟨fun _ => rfl, rfl⟩

theorem trans (h : Still c s s') (h' : Still c s' s'') : Still c s s'' :=
  ⟨fun name => (h'.snapshots name).trans (h.snapshots name), h'.ids.trans h.ids⟩

theorem symm (h : Still c s s') : Still c s' s :=
  ⟨fun name => (h.snapshots name).symm, h.ids.symm⟩

/-- A snapshot is still there. -/
theorem mem (h : Still c s s') (hx : x ∈ s.snapshots.values) :
    ∃ x' ∈ s'.snapshots.values, x'.stateless = x.stateless := by
  obtain ⟨name, hname⟩ := Dict.mem_values.1 hx
  have hsame := h.snapshots name
  rw [hname, Option.map_some] at hsame
  obtain ⟨x', hx', heq⟩ := Option.map_eq_some_iff.1 hsame
  exact ⟨x', Dict.mem_values.2 ⟨name, hx'⟩, heq⟩

end Still

/-- Nothing is written but by the passes. -/
theorem storing_backingUp (c : AzureConfig) : Storing (backingUp c) where
  others {call w r w'} turn hkeeps := by
    obtain ⟨w₁, haside, turn⟩ := turn
    have hanswer : (World.handler.answer call w₁).2.saves = w₁.saves := by
      refine World.saves_answer w₁ ?_
      rintro target handler values rfl
      exact hkeeps.elim
    rcases turn.cases with ⟨-, rfl⟩ | ⟨-, rfl | rfl⟩
    · exact hanswer.trans haside.saves
    · exact haside.saves
    · exact hanswer.trans haside.saves
  write {target handler values w r w'} turn := by
    obtain ⟨w₁, haside, turn⟩ := turn
    rw [← haside.saves]
    have hanswer := w₁.saves_answer_save target handler values
    rcases turn.cases with ⟨-, rfl⟩ | ⟨-, rfl | rfl⟩
    · exact hanswer
    · exact Or.inl rfl
    · exact hanswer
  note _ _ := rfl

/-- How a request to the subscription of the cluster turns out. -/
theorem turn_cluster {secret : SecretRef} {group : String} {k : CloudCall}
    {r : Except AzureError k.Answer}
    (turn : (backingUp c).answers (.cloud (.cluster secret) group k) w r w') :
    ∃ s, Still c w.cluster s ∧
      ((w'.cluster = s ∧ ∃ e, r = .error e) ∨
        (w'.cluster = (s.perform group k).2 ∧
          ((∃ e, r = .error e) ∨ r = (s.perform group k).1))) := by
  obtain ⟨w₁, haside, turn⟩ := turn
  have hlogged : Still c w.cluster (w₁.cluster.logged k) :=
    ⟨haside.still.snapshots, haside.still.ids⟩
  have hanswer : World.handler.answer (.cloud (.cluster secret) group k) w₁ =
      ((w₁.cluster.answer group k).1, { w₁ with cluster := (w₁.cluster.answer group k).2 }) := rfl
  rcases w₁.cluster.answer_cases group k with ⟨e, hfails⟩ | hperforms
  · rw [hfails] at hanswer
    rcases turn.cases with ⟨rfl, rfl⟩ | ⟨⟨e', rfl⟩, rfl | rfl⟩
    · rw [hanswer]
      exact ⟨_, hlogged, Or.inl ⟨rfl, e, rfl⟩⟩
    · exact ⟨_, haside.still, Or.inl ⟨rfl, e', rfl⟩⟩
    · rw [hanswer]
      exact ⟨_, hlogged, Or.inl ⟨rfl, e', rfl⟩⟩
  · rw [hperforms] at hanswer
    rcases turn.cases with ⟨rfl, rfl⟩ | ⟨⟨e', rfl⟩, rfl | rfl⟩
    · rw [hanswer]
      exact ⟨_, hlogged, Or.inr ⟨rfl, Or.inr rfl⟩⟩
    · exact ⟨_, haside.still, Or.inl ⟨rfl, e', rfl⟩⟩
    · rw [hanswer]
      exact ⟨_, hlogged, Or.inr ⟨rfl, Or.inl ⟨e', rfl⟩⟩⟩

/-- Snapshots and masters stay unless a call is about them. -/
theorem still_of_turn {call : Call} {r : Except call.Failure call.Answer}
    (hcall : ∀ secret group k, call = .cloud (.cluster secret) group k → k.keepsCopies = true)
    (turn : (backingUp c).answers call w r w') : Still c w.cluster w'.cluster := by
  by_cases hcluster : ∃ secret group k, call = .cloud (.cluster secret) group k
  · obtain ⟨secret, group, k, rfl⟩ := hcluster
    have hk := hcall secret group k rfl
    obtain ⟨s, hstill, h⟩ := turn_cluster turn
    have hperform : Still c s (s.perform group k).2 := by
      cases k <;> first | exact ⟨fun _ => rfl, rfl⟩ | cases hk
    rcases h with ⟨rfl, -⟩ | ⟨h, -⟩
    · exact hstill
    · rw [h]
      exact hstill.trans hperform
  · obtain ⟨w₁, haside, turn⟩ := turn
    have hanswer : (World.handler.answer call w₁).2.cluster = w₁.cluster :=
      w₁.cluster_answer fun secret group k heq => hcluster ⟨secret, group, k, heq⟩
    rcases turn.cases with ⟨-, rfl⟩ | ⟨-, rfl | rfl⟩
    · rw [hanswer]
      exact haside.still
    · exact haside.still
    · rw [hanswer]
      exact haside.still

/-- The snapshots that are told are those that are there. -/
theorem snapshots_of_turn {secret : SecretRef} {group : String} {l : List Snapshot}
    (turn : (backingUp c).answers (.cloud (.cluster secret) group .listSnapshots) w (.ok l) w') :
    l = w'.cluster.snapshots.values := by
  obtain ⟨s, -, ⟨-, e, h⟩ | ⟨hcluster, ⟨e, h⟩ | h⟩⟩ := turn_cluster turn
  · cases h
  · cases h
  · rw [hcluster]
    exact Except.ok.inj h

/-- The masters that are told are those that are there. -/
theorem instances_of_turn {secret : SecretRef} {group : String} {l : List Instance}
    (turn : (backingUp c).answers
      (.cloud (.cluster secret) group (.listInstances (scaleSetOf c))) w (.ok l) w') :
    l.map Instance.instanceId = idsIn c w'.cluster := by
  obtain ⟨s, -, ⟨-, e, h⟩ | ⟨hcluster, ⟨e, h⟩ | h⟩⟩ := turn_cluster turn
  · cases h
  · cases h
  · rw [hcluster]
    have hfound :
        Except.ok l = Subscription.orMissing ((s.scaleSets.get? (scaleSetOf c)).map fun _ =>
      s.instancesOf (scaleSetOf c)) _ := h
    cases hset : s.scaleSets.get? (scaleSetOf c) with
    | none =>
      rw [hset] at hfound
      cases hfound
    | some m =>
      rw [hset] at hfound
      cases hfound
      rfl

/-- A requested snapshot is added to those that are there, or nothing changes. -/
theorem copied_of_turn {secret : SecretRef} {group name : String} {value : Snapshot}
    {r : Except AzureError Operation}
    (turn : (backingUp c).answers (.cloud (.cluster secret) group (.putSnapshot name value)) w r
      w') :
    idsIn c w'.cluster = idsIn c w.cluster ∧
      ∀ x' ∈ w'.cluster.snapshots.values,
        (∃ x ∈ w.cluster.snapshots.values, x'.stateless = x.stateless) ∨
        (x'.name = name ∧ x'.creation = value.creation) := by
  obtain ⟨s, hstill, h⟩ := turn_cluster turn
  have hbefore : ∀ x' ∈ s.snapshots.values,
      ∃ x ∈ w.cluster.snapshots.values, x'.stateless = x.stateless := by
    intro x' hx'
    obtain ⟨x, hx, heq⟩ := hstill.symm.mem hx'
    exact ⟨x, hx, heq.symm⟩
  rcases h with ⟨rfl, -⟩ | ⟨h, -⟩
  · exact ⟨hstill.ids, fun x' hx' => Or.inl (hbefore x' hx')⟩
  · rw [h]
    refine ⟨hstill.ids, fun x' hx' => ?_⟩
    obtain ⟨key, hkey⟩ := Dict.mem_values.1 hx'
    replace hkey : (s.putSnapshot group name value).snapshots.get? key = some x' := hkey
    unfold Subscription.putSnapshot at hkey
    dsimp only at hkey
    rw [Dict.get?_insert] at hkey
    split at hkey
    · cases hkey
      exact Or.inr ⟨rfl, rfl⟩
    · exact Or.inl (hbefore x' (Dict.mem_values.2 ⟨key, hkey⟩))

/-! ## Passes before anything is deployed -/

/-- The requests of such a pass keep snapshots and masters, but for the copy that is taken of a
disk. -/
theorem request_cases {account : Account} {group : String} {k : CloudCall}
    (hearly : late ((stateOf c').stage MastersStage) = false)
    (hissue : Issues (ensure settings now c') asked (.cloud account group k)) :
    k.keepsCopies = true ∨ (stateOf c').stage MastersStage = .ensureSnapshot ∧
      ∃ name value, k = .putSnapshot name value ∧
        Issues (backUp settings c') asked (.cloud account group (.putSnapshot name value)) := by
  rcases issues_ensure hissue with hstage | ⟨values, hcall⟩
  · have hcalls := (asks_stage settings c' (stateOf c') _).of_issues hstage
    generalize (stateOf c').stage MastersStage = source at hearly hstage hcalls
    cases source with
    | ensureSnapshot =>
      cases k with
      | putSnapshot name value =>
        exact Or.inr ⟨rfl, name, value, rfl, issues_keeping hstage⟩
      | listSnapshots => exact Or.inl rfl
      | listInstances name => exact Or.inl rfl
      | _ => exact hcalls.elim
    | _ => cases k <;> first | exact Or.inl rfl | exact hcalls.elim | cases hearly
  · cases hcall

/-- What holds while nothing but copies of the old master is added to the snapshots: `known` is what
is known of the snapshots with the tags of a backup, after the calls of a pass. -/
structure Watched (c c' : AzureConfig) (ids : List String) (known : List Asked → Snapshot → Prop)
    (asked : List Asked) (w : World) : Prop where
  /-- The masters stay. -/
  same : idsIn c w.cluster = ids
  /-- The masters that were told are those that are there. -/
  listed : ∀ l, ⟨.cloud c'.group.account c'.group.name (.listInstances (scaleSetOf c')),
    .ok l⟩ ∈ asked → l.map Instance.instanceId = ids
  /-- What is known of the snapshots that are there. -/
  there : ∀ x ∈ w.cluster.snapshots.values, Etcd.isSnapshotOf backupDisk x = true → known asked x
  /-- What is known of the snapshots that were told. -/
  told : ∀ l, ⟨.cloud c'.group.account c'.group.name .listSnapshots, .ok l⟩ ∈ asked →
    ∀ x ∈ l, Etcd.isSnapshotOf backupDisk x = true → known asked x

/-- What is known stays so with each call of a pass, when it is known of a copy that the pass
requests. -/
theorem Watched.turn {ids : List String} {known : List Asked → Snapshot → Prop} {call : Call}
    {r : Except call.Failure call.Answer} (h : Watched c c' ids known asked w)
    (hid : scaleSetOf c' = scaleSetOf c)
    (hmore : ∀ x a, known asked x → known (asked ++ [a]) x)
    (hstate : ∀ asked x x', x'.stateless = x.stateless → known asked x → known asked x')
    (hcall : ∀ secret group k, call = .cloud (.cluster secret) group k → k.keepsCopies = true ∨
      ∃ name value, k = .putSnapshot name value ∧
        ∀ x, x.name = name → x.creation = value.creation → known (asked ++ [⟨call, r⟩]) x)
    (turn : (backingUp c).answers call w r w') :
    Watched c c' ids known (asked ++ [⟨call, r⟩]) w' := by
  -- What was there before is known now, whatever the cloud reports about its making.
  have hbefore : ∀ x' x, x ∈ w.cluster.snapshots.values → x'.stateless = x.stateless →
      Etcd.isSnapshotOf backupDisk x' = true → known (asked ++ [⟨call, r⟩]) x' := by
    intro x' x hx heq htagged
    refine hstate _ x x' heq (hmore x _ (h.there x hx ?_))
    show Etcd.isSnapshotOf backupDisk x.stateless = true
    rw [← heq]
    exact htagged
  have hnow : idsIn c w'.cluster = ids ∧ ∀ x ∈ w'.cluster.snapshots.values,
      Etcd.isSnapshotOf backupDisk x = true → known (asked ++ [⟨call, r⟩]) x := by
    by_cases hcopy : ∃ secret group name value,
        call = .cloud (.cluster secret) group (.putSnapshot name value)
    · obtain ⟨secret, group, name, value, rfl⟩ := hcopy
      obtain ⟨hids, hthere⟩ := copied_of_turn turn
      refine ⟨hids.trans h.same, fun x' hx' htagged => ?_⟩
      rcases hthere x' hx' with ⟨x, hx, heq⟩ | ⟨hname, hcreation⟩
      · exact hbefore x' x hx heq htagged
      · rcases hcall secret group _ rfl with hkeeps | ⟨name', value', hput, hknown⟩
        · cases hkeeps
        · cases hput
          exact hknown x' hname hcreation
    · have hstill : Still c w.cluster w'.cluster := by
        refine still_of_turn (fun secret group k heq => ?_) turn
        rcases hcall secret group k heq with hkeeps | ⟨name, value, rfl, -⟩
        · exact hkeeps
        · exact absurd ⟨secret, group, name, value, heq⟩ hcopy
      refine ⟨hstill.ids.trans h.same, fun x' hx' htagged => ?_⟩
      obtain ⟨x, hx, heq⟩ := hstill.symm.mem hx'
      exact hbefore x' x hx heq.symm htagged
  refine ⟨hnow.1, ?_, hnow.2, ?_⟩
  · intro l hl
    rcases List.mem_append.1 hl with hl | hl
    · exact h.listed l hl
    · cases List.mem_singleton.1 hl
      rw [hid] at turn
      exact (instances_of_turn turn).trans hnow.1
  · intro l hl x hx htagged
    rcases List.mem_append.1 hl with hl | hl
    · exact hmore x _ (h.told l hl x hx htagged)
    · cases List.mem_singleton.1 hl
      rw [snapshots_of_turn turn] at hx
      exact hnow.2 x hx htagged

/-- A pass leads neither back before something was deployed, nor back before the disk is copied. -/
theorem early_of_pass (hc : Reads c w c')
    (path : Path (backingUp c) (ensure settings now c') w asked q w')
    (hearly : late (stageIn c w') = false) :
    late (stageIn c w) = false ∧ (stageIn c w = .ensureSnapshot → stageIn c w' = .ensureSnapshot) :=
  early_of_follows (follows_of_pass (storing_backingUp c) hc path) hearly

/-- A pass that goes on from copying the disk has seen a backup. -/
theorem sawBackup_of_pass (hc : Reads c w c') (hstage : stageIn c w = .ensureSnapshot)
    (hleft : stageIn c w' ≠ .ensureSnapshot)
    (path : Path (backingUp c) (ensure settings now c') w asked q w') :
    ∃ x, SawBackup c' asked x := by
  obtain ⟨before, target, values, r, t, rfl, hdone, ht⟩ :=
    left_of_pass (storing_backingUp c) hc path
    rfl hstage hleft
  obtain ⟨x, hsaw⟩ := advances_backUp hdone (by rw [ht]; exact hleft)
  exact ⟨x, hsaw.mono (List.subset_append_left _ _)⟩

/-- What is known before such a pass, and of the copies that it requests, is known throughout the
pass. -/
theorem watched_of_pass {known : List Asked → Snapshot → Prop} (hc : Reads c w c')
    (hearly : late (stageIn c w) = false)
    (hmore : ∀ asked x a, known asked x → known (asked ++ [a]) x)
    (hstate : ∀ asked x x', x'.stateless = x.stateless → known asked x → known asked x')
    (hstart : ∀ x ∈ w.cluster.snapshots.values, Etcd.isSnapshotOf backupDisk x = true → known [] x)
    (hcopy : ∀ asked account group name value r, stageIn c w = .ensureSnapshot →
      Issues (backUp settings c') asked (.cloud account group (.putSnapshot name value)) →
      (∀ l, ⟨.cloud c'.group.account c'.group.name (.listInstances (scaleSetOf c')),
        .ok l⟩ ∈ asked → l.map Instance.instanceId = idsIn c w.cluster) →
      ∀ x, x.name = name → x.creation = value.creation →
        known (asked ++ [⟨.cloud account group (.putSnapshot name value), r⟩]) x)
    (path : Path (backingUp c) (ensure settings now c') w asked q w') :
    Watched c c' (idsIn c w.cluster) known asked w' := by
  have hid : scaleSetOf c' = scaleSetOf c := congrArg Name.masterScaleSet hc.clusterId
  refine path.keeps (J := Watched c c' (idsIn c w.cluster) known) ?_ ?_ ?_
  · refine ⟨rfl, ?_, hstart, ?_⟩ <;> exact fun _ h => by cases h
  · exact fun _ _ _ h => ⟨h.same, h.listed, h.there, h.told⟩
  · intro asked call r w₁ w₂ hissue h turn
    refine h.turn hid (hmore asked) hstate ?_ turn
    rintro secret group k rfl
    rcases request_cases (by rw [hc.stage]; exact hearly) hissue with
      hkeeps | ⟨hensure, name, value, rfl, hcopies⟩
    · exact Or.inl hkeeps
    · rw [hc.stage] at hensure
      exact Or.inr ⟨name, value, rfl, hcopy asked _ group name value r hensure hcopies h.listed⟩

/-! ## The backup of a run -/

/-- Whether a snapshot is the copy that a pass requested of the disk that it saw at the first unit
of the first master, which has an ID. -/
def Copied (c : AzureConfig) (asked : List Asked) (inst : String) (x : Snapshot) : Prop :=
  ∃ (v : Instance) (source : String) (r : Except AzureError Operation),
    SawDisk c asked v source ∧ v.instanceId = inst ∧
    ⟨.cloud c.group.account c.group.name (.putSnapshot (Name.snapshotOf backupDisk)
      (Etcd.snapshot v.location (some source) backupDisk)), r⟩ ∈ asked ∧
    x.name = Name.snapshotOf backupDisk ∧ x.creation = ⟨.copy, some source⟩

/-- Whether a snapshot was taken in a run, of the disk of a master that an earlier pass saw
deallocated. -/
def Taken (rounds : List (Round AzureConfig)) (x : Snapshot) : Prop :=
  ∃ before copy after, rounds = before ++ copy :: after ∧
    ∃ stop ∈ before, ∃ v, SawStopped stop.given stop.asked v ∧
      Copied copy.given copy.asked v.instanceId x

theorem Copied.more {inst : String} (h : Copied c asked inst x) (a : Asked) :
    Copied c (asked ++ [a]) inst x := by
  obtain ⟨v, source, r, ⟨⟨others, hlist⟩, hdisk⟩, hid, hput, hx⟩ := h
  exact ⟨v, source, r, ⟨⟨others, List.mem_append_left _ hlist⟩, hdisk⟩, hid,
    List.mem_append_left _ hput, hx⟩

theorem Copied.of_stateless {inst : String} (h : Copied c asked inst x)
    (heq : x'.stateless = x.stateless) : Copied c asked inst x' := by
  obtain ⟨v, source, r, hdisk, hid, hput, hname, hcreation⟩ := h
  refine ⟨v, source, r, hdisk, hid, hput, ?_, ?_⟩
  · show x'.stateless.name = _
    rw [heq]
    exact hname
  · show x'.stateless.creation = _
    rw [heq]
    exact hcreation

theorem Taken.append (h : Taken rounds x) (more : List (Round AzureConfig)) :
    Taken (rounds ++ more) x := by
  obtain ⟨before, copy, after, rfl, h⟩ := h
  exact ⟨before, copy, after ++ more, by rw [List.append_assoc, List.cons_append], h⟩

theorem Taken.of_stateless (h : Taken rounds x) (heq : x'.stateless = x.stateless) :
    Taken rounds x' := by
  obtain ⟨before, copy, after, hsplit, stop, hstop, v, hsaw, hcopied⟩ := h
  exact ⟨before, copy, after, hsplit, stop, hstop, v, hsaw, hcopied.of_stateless heq⟩

/-- While the disk is copied, the snapshots with the tags of a backup were taken in the run, when
all were before. -/
theorem taken_of_pass (hc : Reads c w c') (hstage : stageIn c w = .ensureSnapshot)
    (hstopped : ∃ r ∈ rounds, ∃ v, SawStopped r.given r.asked v ∧
      (idsIn c w.cluster).head? = some v.instanceId)
    (htaken : ∀ x ∈ w.cluster.snapshots.values, Etcd.isSnapshotOf backupDisk x = true →
      Taken rounds x)
    (path : Path (backingUp c) (ensure settings now c') w asked q w') :
    Watched c c' (idsIn c w.cluster) (fun _ => Taken (rounds ++ [⟨c', asked⟩])) asked w' := by
  obtain ⟨stop, hstop, v, hsaw, hfirst⟩ := hstopped
  have hwatched : Watched c c' (idsIn c w.cluster)
      (fun asked x => Taken rounds x ∨ Copied c' asked v.instanceId x) asked w' := by
    refine watched_of_pass hc (by rw [hstage]; rfl) ?_ ?_ ?_ ?_ path
    · exact fun asked x a h => h.imp_right fun h => h.more a
    · exact fun asked x x' heq h => h.imp (fun h => h.of_stateless heq) fun h => h.of_stateless heq
    · exact fun x hx htagged => Or.inl (htaken x hx htagged)
    · intro asked account group name value r _ hcopies hlisted x hname hcreation
      obtain ⟨rfl, rfl, rfl, -, v', source, ⟨⟨others, hlist⟩, hdisk⟩, rfl⟩ := copies hcopies
      -- The first master that the pass was told is the one that was seen deallocated.
      have hids := hlisted _ hlist
      rw [← hids] at hfirst
      refine Or.inr ⟨v', source, r, ⟨⟨others, List.mem_append_left _ hlist⟩, hdisk⟩,
        Option.some.inj hfirst, List.mem_append_right _ List.mem_cons_self, hname, hcreation⟩
  have hknown : ∀ x, Taken rounds x ∨ Copied c' asked v.instanceId x →
      Taken (rounds ++ [⟨c', asked⟩]) x := by
    rintro x (h | h)
    · exact h.append _
    · exact ⟨rounds, _, [], rfl, stop, hstop, v, hsaw, h⟩
  exact ⟨hwatched.same, hwatched.listed, fun x hx htagged => hknown x (hwatched.there x hx htagged),
    fun l hl x hx htagged => hknown x (hwatched.told l hl x hx htagged)⟩

/-! ## Runs without an earlier backup -/

/-- What a run has come to when no snapshot had the tags of a backup before it. -/
structure Clean (c : AzureConfig) (rounds : List (Round AzureConfig)) (w : World) : Prop where
  /-- There is no backup before it is to be taken. -/
  none : late (stageIn c w) = false → stageIn c w ≠ .ensureSnapshot →
    ∀ x ∈ w.cluster.snapshots.values, Etcd.isSnapshotOf backupDisk x = false
  /-- Then the first master was seen deallocated. -/
  stopped : stageIn c w = .ensureSnapshot → ∃ r ∈ rounds, ∃ v, SawStopped r.given r.asked v ∧
    (idsIn c w.cluster).head? = some v.instanceId
  /-- And it is taken in the run. -/
  taken : stageIn c w = .ensureSnapshot → ∀ x ∈ w.cluster.snapshots.values,
    Etcd.isSnapshotOf backupDisk x = true → Taken rounds x

/-- The next pass keeps to it. -/
theorem Clean.of_pass (h : Clean c rounds w) (hc : Reads c w c')
    (path : Path (backingUp c) (ensure settings now c') w asked q w') :
    Clean c (rounds ++ [⟨c', asked⟩]) w' := by
  -- Before the backup is to be taken, a pass leaves all snapshots.
  have hnone : late (stageIn c w) = false → stageIn c w ≠ .ensureSnapshot →
      Watched c c' (idsIn c w.cluster) (fun _ _ => False) asked w' := by
    intro hearly hne
    refine watched_of_pass hc hearly (fun _ _ _ => id) (fun _ _ _ _ => id) ?_ ?_ path
    · intro x hx htagged
      rw [h.none hearly hne x hx] at htagged
      cases htagged
    · exact fun _ _ _ _ _ _ hensure => absurd hensure hne
  have huntagged : late (stageIn c w) = false → stageIn c w ≠ .ensureSnapshot →
      ∀ x ∈ w'.cluster.snapshots.values, Etcd.isSnapshotOf backupDisk x = false := by
    intro hearly hne x hx
    exact Bool.eq_false_iff.2 fun htagged => (hnone hearly hne).there x hx htagged
  have htaken := fun hensure => taken_of_pass hc hensure (h.stopped hensure) (h.taken hensure) path
  refine ⟨?_, ?_, ?_⟩
  · intro hearly hne
    obtain ⟨hearly', hback⟩ := early_of_pass hc path hearly
    exact huntagged hearly' fun hensure => hne (hback hensure)
  · intro hensure
    by_cases hwas : stageIn c w = .ensureSnapshot
    · obtain ⟨r, hr, v, hsaw, hfirst⟩ := h.stopped hwas
      refine ⟨r, List.mem_append_left _ hr, v, hsaw, ?_⟩
      rw [(htaken hwas).same]
      exact hfirst
    · have hfollows := follows_of_pass (storing_backingUp c) hc path
      rw [hensure] at hfollows
      have hstop : stageIn c w = .stopMasters := (source_cases hfollows).resolve_left hwas
      obtain ⟨before, target, values, r, t, rfl, hdone, ht⟩ := left_of_pass (storing_backingUp c) hc
        path rfl hstop (by rw [hensure]; decide)
      obtain ⟨v, hsaw⟩ := advances_stop hdone (by rw [ht, hensure]; decide)
      replace hsaw := hsaw.mono (List.subset_append_left _ [⟨.saveStatus target handler values, r⟩])
      obtain ⟨others, hlist⟩ := hsaw.1
      -- The first of the masters that are there is the one that the pass was told.
      have hwatched := hnone (by rw [hstop]; rfl) hwas
      refine ⟨_, List.mem_append_right _ List.mem_cons_self, v, hsaw, ?_⟩
      rw [hwatched.same, ← hwatched.listed _ hlist]
      rfl
  · intro hensure x hx htagged
    by_cases hwas : stageIn c w = .ensureSnapshot
    · exact (htaken hwas).there x hx htagged
    · have hearly := (early_of_pass hc path (by rw [hensure]; rfl)).1
      rw [huntagged hearly hwas x hx] at htagged
      cases htagged

/-! ## Runs with an earlier backup -/

/-- What holds while a snapshot with the tags of a backup is there: it is told, and no other one is
requested. -/
structure Stale (c : AzureConfig) (asked : List Asked) (w : World) : Prop where
  found : ∃ x ∈ w.cluster.snapshots.values, Etcd.isSnapshotOf backupDisk x = true
  told : ∀ l, ⟨.cloud c.group.account c.group.name .listSnapshots, .ok l⟩ ∈ asked →
    ∃ x ∈ l, Etcd.isSnapshotOf backupDisk x = true
  none : ∀ a ∈ asked, a.call.copies = false

/-- No pass requests a backup while there is one. -/
theorem stale_of_pass (hc : Reads c w c') (hearly : late (stageIn c w) = false)
    (hfound : ∃ x ∈ w.cluster.snapshots.values, Etcd.isSnapshotOf backupDisk x = true)
    (path : Path (backingUp c) (ensure settings now c') w asked q w') : Stale c' asked w' := by
  refine path.keeps (J := Stale c') ⟨hfound, fun _ h => (by cases h), fun _ h => (by cases h)⟩ ?_ ?_
  · exact fun _ _ _ h => ⟨h.found, h.told, h.none⟩
  · intro asked call r w₁ w₂ hissue h turn
    have hkeeps : ∀ account group k, call = .cloud account group k → k.keepsCopies = true := by
      rintro account group k rfl
      rcases request_cases (by rw [hc.stage]; exact hearly) hissue with
        hkeeps | ⟨-, name, value, rfl, hcopies⟩
      · exact hkeeps
      · -- A copy is requested only when no backup was told.
        obtain ⟨-, -, -, ⟨l, hl, hnone⟩, -⟩ := copies hcopies
        obtain ⟨x, hx, htagged⟩ := h.told l hl
        exact absurd htagged (List.find?_eq_none.1 hnone x hx)
    have hstill := still_of_turn (fun secret group k heq => hkeeps _ group k heq) turn
    have hnow : ∃ x ∈ w₂.cluster.snapshots.values, Etcd.isSnapshotOf backupDisk x = true := by
      obtain ⟨x, hx, htagged⟩ := h.found
      obtain ⟨x', hx', heq⟩ := hstill.mem hx
      refine ⟨x', hx', ?_⟩
      show Etcd.isSnapshotOf backupDisk x'.stateless = true
      rw [heq]
      exact htagged
    refine ⟨hnow, ?_, ?_⟩
    · intro l hl
      rcases List.mem_append.1 hl with hl | hl
      · exact h.told l hl
      · cases List.mem_singleton.1 hl
        rw [snapshots_of_turn turn]
        exact hnow
    · intro a ha
      rcases List.mem_append.1 ha with ha | ha
      · exact h.none a ha
      · cases List.mem_singleton.1 ha
        cases call with
        | cloud account group k =>
          have hk := hkeeps account group k rfl
          cases k <;> first | rfl | cases hk
        | _ => rfl

/-! ## Whether the backup is fresh -/

/-- A run without an earlier backup stays so. -/
theorem clean_of_run (hstart : stageIn c w₀ = .empty)
    (hnone : ∀ x ∈ w₀.cluster.snapshots.values, Etcd.isSnapshotOf backupDisk x = false)
    (hrun : Run (backingUp c) settings c w₀ rounds w) : Clean c rounds w := by
  induction hrun with
  | start =>
    refine ⟨fun _ _ => hnone, ?_, ?_⟩
    · exact fun h => by cases hstart.symm.trans h
    · exact fun h => by cases hstart.symm.trans h
  | next before hp path ih =>
    obtain ⟨hc, now, rfl⟩ := hp
    exact ih.of_pass hc path

/-- A run with an earlier backup keeps it, and requests no other one before something is
deployed. -/
theorem stale_of_run
    (hfound : ∃ x ∈ w₀.cluster.snapshots.values, Etcd.isSnapshotOf backupDisk x = true)
    (hrun : Run (backingUp c) settings c w₀ rounds w) (hearly : late (stageIn c w) = false) :
    (∃ x ∈ w.cluster.snapshots.values, Etcd.isSnapshotOf backupDisk x = true) ∧
      ∀ r ∈ rounds, ∀ a ∈ r.asked, a.call.copies = false := by
  induction hrun with
  | start => exact ⟨hfound, fun _ h => by cases h⟩
  | next before hp path ih =>
    obtain ⟨hc, now, rfl⟩ := hp
    have hbefore := (early_of_pass hc path hearly).1
    obtain ⟨hthere, hnone⟩ := ih hbefore
    have hstale := stale_of_pass hc hbefore hthere path
    refine ⟨hstale.found, fun r hr => ?_⟩
    rcases List.mem_append.1 hr with hr | hr
    · exact hnone r hr
    · cases List.mem_singleton.1 hr
      exact hstale.none

/-- When the disk of the old master counts as copied, the snapshot that is accepted as the backup
was taken in the run, of the disk at the first unit of the first master after that was seen
deallocated, exactly when no snapshot had the tags of a backup before the run. -/
theorem accepted_taken_iff (hstart : stageIn c w₀ = .empty)
    (hrun : Run (backingUp c) settings c w₀ rounds w) {p : Program Nat}
    (hnext : Next settings c w c' p)
    (path : Path (backingUp c) p w asked q w') (hstage : stageIn c w = .ensureSnapshot)
    (hleft : stageIn c w' ≠ .ensureSnapshot) :
    (∃ x, SawBackup c' asked x) ∧ ∀ x, SawBackup c' asked x →
      (Taken (rounds ++ [⟨c', asked⟩]) x ↔
        ∀ x₀ ∈ w₀.cluster.snapshots.values, Etcd.isSnapshotOf backupDisk x₀ = false) := by
  obtain ⟨hc, now, rfl⟩ := hnext
  have hearly : late (stageIn c w) = false := by
    rw [hstage]
    rfl
  refine ⟨sawBackup_of_pass hc hstage hleft path, fun x hx => ⟨fun htaken => ?_, fun hnone => ?_⟩⟩
  · intro x₀ hx₀
    refine Bool.eq_false_iff.2 fun htagged => ?_
    -- While an earlier backup is there, the run requests no snapshot that could have been accepted.
    obtain ⟨hthere, hnone⟩ := stale_of_run ⟨x₀, hx₀, htagged⟩ hrun hearly
    have hstale := stale_of_pass hc hearly hthere path
    obtain ⟨before, copy, after, hsplit, _, -, v, -, v', source, r, -, -, hput, -⟩ := htaken
    have hcopy : copy ∈ rounds ++ [⟨c', asked⟩] := by
      rw [hsplit]
      exact List.mem_append_right _ List.mem_cons_self
    rcases List.mem_append.1 hcopy with hcopy | hcopy
    · cases hnone copy hcopy _ hput
    · cases List.mem_singleton.1 hcopy
      cases hstale.none _ hput
  · have hclean := clean_of_run hstart hnone hrun
    obtain ⟨⟨l, hl, hfind⟩, -⟩ := hx
    exact (taken_of_pass hc hstage (hclean.stopped hstage) (hclean.taken hstage) path).told l hl x
      (List.mem_of_find?_eq_some hfind) (List.find?_some hfind)

/-! ## Runs with and without an earlier backup -/

/-- The world of the old master answers as its surroundings may. -/
theorem answers_drain (call : Call) (w : World) :
    (backingUp smallConfig).answers call w ((World.changing drain false).answer call w).1
      ((World.changing drain false).answer call w).2 := by
  have hanswer : (World.changing drain false).answer call w = World.answer call (drain w) := by
    cases call <;> rfl
  rw [hanswer]
  exact ⟨drain w, ⟨rfl, .refl _ _⟩, .answered⟩

/-- The seventh pass over the old master accepts the snapshot that the sixth one has taken. -/
theorem accepted_taken_iff_old :
    ∃ x, SawBackup (stored smallConfig (replacing oldWorld 6).2) (replacingNext oldWorld 6 2).1 x ∧
      Taken ((replacing oldWorld 6).1 ++
        [⟨stored smallConfig (replacing oldWorld 6).2, (replacingNext oldWorld 6 2).1⟩]) x := by
  obtain ⟨⟨x, hx⟩, htaken⟩ := accepted_taken_iff (by decide +kernel)
    (run_replacing answers_drain rfl oldWorld 6) ⟨reads_stored _ _, _, rfl⟩
    (path_replacing answers_drain rfl oldWorld 6 2) (by decide +kernel) (by decide +kernel)
  exact ⟨x, hx, (htaken x hx).2 fun x₀ hx₀ => by cases hx₀⟩

/-- The world of the old master, with a snapshot that has the tags of a backup. -/
def staleWorld : World :=
  { oldWorld with
    cluster := oldWorld.cluster.putSnapshot "abc12" "leftover"
      (Etcd.snapshot "westeurope" (some "/disks/another") backupDisk) }

/-- A snapshot from before the run may be accepted: it is found by its tags. -/
theorem not_accepted_taken :
    ¬ ∀ (settings : PassSettings) (c : AzureConfig) (w₀ : World) (rounds : List (Round AzureConfig))
      (w : World) (c' : AzureConfig) (p : Program Nat) (asked : List Asked) (q : Program Nat)
      (w' : World)
      (x : Snapshot), stageIn c w₀ = .empty → Run (backingUp c) settings c w₀ rounds w →
      Next settings c w c' p → Path (backingUp c) p w asked q w' → stageIn c w = .ensureSnapshot →
      stageIn c w' ≠ .ensureSnapshot → SawBackup c' asked x →
      Taken (rounds ++ [⟨c', asked⟩]) x := by
  intro hclaim
  have hpath := path_replacing answers_drain rfl staleWorld 5 2
  have hstage : stageIn smallConfig (replacing staleWorld 5).2 = .ensureSnapshot := by
    decide +kernel
  have hleft : stageIn smallConfig (replacingNext staleWorld 5 2).2.2 ≠ .ensureSnapshot := by
    decide +kernel
  obtain ⟨x, hx⟩ := sawBackup_of_pass (reads_stored _ _) hstage hleft hpath
  obtain ⟨before, copy, after, hsplit, _, -, v, -, v', source, r, -, -, hput, -⟩ :=
    hclaim _ _ staleWorld _ _ _ _ _ _ _ x (by decide +kernel)
      (run_replacing answers_drain rfl staleWorld 5) ⟨reads_stored _ _, _, rfl⟩ hpath
      hstage hleft hx
  -- No pass requested a snapshot.
  have hnone : ∀ r ∈ (replacing staleWorld 5).1 ++
      [⟨stored smallConfig (replacing staleWorld 5).2, (replacingNext staleWorld 5 2).1⟩],
      ∀ a ∈ r.asked, a.call.copies = false := by decide +kernel
  have hcopy : copy ∈ (replacing staleWorld 5).1 ++
      [⟨stored smallConfig (replacing staleWorld 5).2, (replacingNext staleWorld 5 2).1⟩] := by
    rw [hsplit]
    exact List.mem_append_right _ List.mem_cons_self
  cases hnone copy hcopy _ hput

end Masters

end TenantFleet
