/-
# The order in which old masters are replaced

Masters of an older version are drained, stopped and backed up before anything new is deployed,
whatever fails on the way and wherever a pass is given up.

* `Drained`, `Stopped`, `BackedUp` : what the rounds of a run have come to;
* `Reached` : what the stored stage stands for;
* `replaced_in_order` : what was seen before the masters are touched.
-/
import TenantFleet.Proofs.Masters.Drains

namespace TenantFleet

open Program

namespace Masters

variable {settings : PassSettings} {id : String} {c c' : AzureConfig} {w w' w₀ : World}
  {now : Timestamp} {rounds : List (Round AzureConfig)} {asked : List Asked} {q : Program Nat}
  {r : Round AzureConfig}

/-! ## What a run has come to -/

/-- Whether each node that was told when drains were asked for the last time was seen drained
later. -/
def Drained (id : String) (rounds : List (Round AzureConfig)) : Prop :=
  ∃ r after nodes, LastIn .backupEtcdDisk rounds r after ∧ ToldNodes r.given r.asked nodes ∧
    ∀ n ∈ nodes, ∃ r' ∈ after, SawDrained id n.name r'.asked

/-- Whether each of these nodes was seen drained later, or its request is still there. -/
def Draining (id : String) (rounds : List (Round AzureConfig)) (w : World) : Prop :=
  ∃ r after nodes, LastIn .backupEtcdDisk rounds r after ∧ ToldNodes r.given r.asked nodes ∧
    ∀ n ∈ nodes, Requested id w n.name ∨ ∃ r' ∈ after, SawDrained id n.name r'.asked

/-- Whether the first master was seen deallocated. -/
def Stopped (rounds : List (Round AzureConfig)) : Prop :=
  ∃ r ∈ rounds, ∃ v, SawStopped r.given r.asked v

/-- Whether a backup was seen after the first master was seen deallocated. -/
def BackedUp (rounds : List (Round AzureConfig)) : Prop :=
  ∃ before r after, rounds = before ++ r :: after ∧ Stopped before ∧
  ∃ s, SawBackup r.given r.asked s

/-- Whether the last pass that decided about a backup found masters of an older version. -/
def Legacy (settings : PassSettings) (rounds : List (Round AzureConfig)) : Prop :=
  ∀ r after, LastIn .empty rounds r after → FoundLegacy settings r.given r.asked

/-- What the stored stage stands for. -/
structure Reached (settings : PassSettings) (id : String) (rounds : List (Round AzureConfig))
    (w : World) (stage : MastersStage) : Prop where
  /-- The requests are those of the masters. -/
  ours : Ours id w
  draining : stage = .waitForMastersToDrain → Draining id rounds w
  drained : stage = .stopMasters → Drained id rounds
  stopped : stage = .ensureSnapshot → Stopped rounds
  backedUp : late stage = true → Legacy settings rounds → BackedUp rounds

/-! ## Rounds that go by -/

theorem Drained.append (h : Drained id rounds) (hr : r.stage ≠ .backupEtcdDisk) :
    Drained id (rounds ++ [r]) := by
  obtain ⟨r₀, after, nodes, hlast, htold, hnodes⟩ := h
  refine ⟨r₀, after ++ [r], nodes, hlast.append hr, htold, fun n hn => ?_⟩
  obtain ⟨r', hr', hsaw⟩ := hnodes n hn
  exact ⟨r', List.mem_append_left _ hr', hsaw⟩

theorem Stopped.append (h : Stopped rounds) (more : List (Round AzureConfig)) :
    Stopped (rounds ++ more) := by
  obtain ⟨r, hr, hsaw⟩ := h
  exact ⟨r, List.mem_append_left _ hr, hsaw⟩

theorem BackedUp.append (h : BackedUp rounds) (more : List (Round AzureConfig)) :
    BackedUp (rounds ++ more) := by
  obtain ⟨before, r, after, rfl, h⟩ := h
  exact ⟨before, r, after ++ more, by rw [List.append_assoc, List.cons_append], h⟩

theorem Legacy.of_append (h : Legacy settings (rounds ++ [r])) (hr : r.stage ≠ .empty) :
    Legacy settings rounds :=
  fun r₀ after hlast => h r₀ (after ++ [r]) (hlast.append hr)

/-! ## One more pass -/

variable (hc : Reads c w c') (path : Path besideDrainer (ensure settings now c') w asked q w')

include hc path

/-- While the masters wait to be drained, each node has its request or was seen drained. -/
theorem draining_of_pass (hid : c.clusterId = id) (h : Reached settings id rounds w (stageIn c w))
    (hstage : stageIn c w' = .waitForMastersToDrain) :
    Draining id (rounds ++ [⟨c', asked⟩]) w' := by
  have hid' : c'.clusterId = id := hc.clusterId.trans hid
  have hfollows := follows_of_pass storing_besideDrainer hc path
  rw [hstage] at hfollows
  rcases source_cases hfollows with hsource | hsource
  · -- A pass in the same stage withdraws a request only when it has seen its end.
    have hround : Round.stage ⟨c', asked⟩ = .waitForMastersToDrain := hc.stage.trans hsource
    have hawaiting := awaiting_of_pass h.ours hid' (hc.stage.trans hsource) path
    obtain ⟨r, after, nodes, hlast, htold, hnodes⟩ := h.draining hsource
    refine ⟨r, after ++ [⟨c', asked⟩], nodes, hlast.append (by rw [hround]; decide), htold, ?_⟩
    intro n hn
    rcases hnodes n hn with hthere | ⟨r', hr', hsaw⟩
    · rcases hawaiting.requested n.name hthere with hthere | hsaw
      · exact Or.inl hthere
      · exact Or.inr ⟨_, List.mem_append_right _ List.mem_cons_self, hsaw⟩
    · exact Or.inr ⟨r', List.mem_append_left _ hr', hsaw⟩
  · obtain ⟨before, target, values, r, t, rfl, hdone, ht⟩ :=
      left_of_pass storing_besideDrainer hc path
      rfl hsource (by rw [hstage]; decide)
    obtain ⟨nodes, htold, hnodes⟩ := advances_requestDrains hdone (by rw [ht, hstage]; decide)
    refine ⟨_, [], nodes, .here rounds (hc.stage.trans hsource), List.mem_append_left _ htold, ?_⟩
    intro n hn
    obtain ⟨r', hr', haccepted⟩ := hnodes n hn
    exact Or.inl (requested_of_pass hid' (hc.stage.trans hsource) path n r'
      (List.mem_append_left _ hr') haccepted)

/-- When the masters are to be stopped, each node was seen drained. -/
theorem drained_of_pass (hid : c.clusterId = id) (h : Reached settings id rounds w (stageIn c w))
    (hstage : stageIn c w' = .stopMasters) : Drained id (rounds ++ [⟨c', asked⟩]) := by
  have hround : Round.stage ⟨c', asked⟩ = stageIn c w := hc.stage
  have hfollows := follows_of_pass storing_besideDrainer hc path
  rw [hstage] at hfollows
  rcases source_cases hfollows with hsource | hsource
  · exact (h.drained hsource).append (by rw [hround, hsource]; decide)
  · have hid' : c'.clusterId = id := hc.clusterId.trans hid
    have hawaiting := awaiting_of_pass h.ours hid' (hc.stage.trans hsource) path
    obtain ⟨before, target, values, r, t, rfl, hdone, ht⟩ :=
      left_of_pass storing_besideDrainer hc path
      rfl hsource (by rw [hstage]; decide)
    obtain ⟨drains, htold, hall⟩ := advances_awaitDrains hdone (by rw [ht, hstage]; decide)
    rw [hid'] at htold
    replace htold := List.mem_append_left [⟨.saveStatus target handler values, r⟩] htold
    obtain ⟨r₀, after, nodes, hlast, hnodesTold, hnodes⟩ := h.draining hsource
    refine ⟨r₀, _, nodes, hlast.append (by rw [hround, hsource]; decide), hnodesTold,
      fun n hn => ?_⟩
    rcases hnodes n hn with hthere | ⟨r', hr', hsaw⟩
    · -- The request is one of those that were told, and all of them have come to an end.
      refine ⟨_, List.mem_append_right _ List.mem_cons_self, ?_⟩
      rcases hawaiting.told drains htold n.name hthere with ⟨d, hd, hnode⟩ | hsaw
      · exact ⟨drains, htold, d, hd, hnode, List.all_eq_true.1 hall d hd⟩
      · exact hsaw
    · exact ⟨r', List.mem_append_left _ hr', hsaw⟩

/-- When the disk is to be copied, the first master was seen deallocated. -/
theorem stopped_of_pass (h : Reached settings id rounds w (stageIn c w))
    (hstage : stageIn c w' = .ensureSnapshot) : Stopped (rounds ++ [⟨c', asked⟩]) := by
  have hfollows := follows_of_pass storing_besideDrainer hc path
  rw [hstage] at hfollows
  rcases source_cases hfollows with hsource | hsource
  · exact (h.stopped hsource).append _
  · obtain ⟨before, target, values, r, t, rfl, hdone, ht⟩ :=
      left_of_pass storing_besideDrainer hc path
      rfl hsource (by rw [hstage]; decide)
    obtain ⟨v, hsaw⟩ := advances_stop hdone (by rw [ht, hstage]; decide)
    exact ⟨_, List.mem_append_right _ List.mem_cons_self, v,
      hsaw.mono (List.subset_append_left _ _)⟩

/-- Behind the backup, one was seen if the masters were found to be of an older version. -/
theorem backedUp_of_pass (h : Reached settings id rounds w (stageIn c w))
    (hstage : late (stageIn c w') = true) (hlegacy : Legacy settings (rounds ++ [⟨c', asked⟩])) :
    BackedUp (rounds ++ [⟨c', asked⟩]) := by
  have hround : Round.stage ⟨c', asked⟩ = stageIn c w := hc.stage
  have hleft : ∀ source, late source = false → stageIn c w' ≠ source := by
    rintro source hearly rfl
    rw [hearly] at hstage
    cases hstage
  rcases late_cases (follows_of_pass storing_besideDrainer hc path) hstage with
    hsource | hsource | hsource
  · refine (h.backedUp hsource (hlegacy.of_append ?_)).append _
    rw [hround]
    intro hempty
    rw [hempty] at hsource
    cases hsource
  · -- The stage would have gone on to the backup.
    obtain ⟨before, target, values, r, t, rfl, hdone, ht⟩ :=
      left_of_pass storing_besideDrainer hc path
      rfl hsource (hleft _ rfl)
    obtain ⟨s, hs, holder⟩ := hlegacy _ [] (.here rounds (hc.stage.trans hsource))
    rcases List.mem_append.1 hs with hs | hs
    · have hbackup := (advances_begin hdone).2 ⟨s, hs, holder⟩
      exact absurd (ht.symm.trans hbackup) (hleft _ rfl)
    · cases List.mem_singleton.1 hs
  · obtain ⟨before, target, values, r, t, rfl, hdone, ht⟩ :=
      left_of_pass storing_besideDrainer hc path
      rfl hsource (hleft _ rfl)
    obtain ⟨s, hsaw⟩ := advances_backUp hdone (by rw [ht]; exact hleft _ rfl)
    exact ⟨rounds, _, [], rfl, h.stopped hsource, s, hsaw.mono (List.subset_append_left _ _)⟩

/-- What the stored stage stands for holds at all moments of the next pass. -/
theorem reached_of_pass (hid : c.clusterId = id) (h : Reached settings id rounds w (stageIn c w)) :
    Reached settings id (rounds ++ [⟨c', asked⟩]) w' (stageIn c w') where
  ours := ours_of_pass h.ours (hc.clusterId.trans hid) path
  draining := draining_of_pass hc path hid h
  drained := drained_of_pass hc path hid h
  stopped := stopped_of_pass hc path h
  backedUp := backedUp_of_pass hc path h

omit hc path

/-- What the stored stage stands for holds throughout a run that starts without one. -/
theorem reached_of_run (hours : Ours c.clusterId w₀) (hstart : stageIn c w₀ = .empty)
    (hrun : Run besideDrainer settings c w₀ rounds w) :
    Reached settings c.clusterId rounds w (stageIn c w) := by
  induction hrun with
  | start =>
    -- In the first stage nothing has to be seen yet.
    rw [hstart]
    refine ⟨hours, ?_, ?_, ?_, ?_⟩ <;> exact fun h => by cases h
  | next before hp path ih =>
    obtain ⟨hc, now, rfl⟩ := hp
    exact reached_of_pass hc path rfl ih

/-! ## What comes first -/

/-- Whether a request deploys something, or moves an instance to what was deployed. -/
def replaces : CloudCall → Bool
  | .putDeployment _ _ | .updateInstances _ _ | .reimage _ _ | .start _ _ => true
  | _ => false

/-- Such requests are made only behind the backup. -/
theorem late_of_calls {source : MastersStage} {account : Account} {group : String} {k : CloudCall}
    (hcalls : source.calls (.cloud account group k)) (hreplaces : replaces k = true) :
    late source = true := by
  cases source <;>
    first
    | rfl
    | (cases k <;> first | exact hcalls.elim | cases hreplaces)

/-- The masters are replaced in order. In a run that starts without a stage, the first master is
deallocated only after each node that was told when drains were asked for the last time was seen
drained. If the last pass that decided about a backup found masters of an older version, nothing is
deployed, updated, reimaged or started before the first master was seen deallocated and, in a later
pass, a backup was seen. And a snapshot is requested only of the disk that the same pass saw at the
first unit of the first master, after that was seen deallocated. -/
theorem replaced_in_order (hours : Ours c.clusterId w₀) (hstart : stageIn c w₀ = .empty)
    (hrun : Run besideDrainer settings c w₀ rounds w) {p : Program Nat}
    (hnext : Next settings c w c' p)
    (path : Path besideDrainer p w asked q w') {account : Account} {group : String} {k : CloudCall}
    (hcall : q.next? = some (.cloud account group k)) :
    (∀ scaleSet inst, k = .deallocate scaleSet inst → Drained c.clusterId rounds) ∧
      (replaces k = true → Legacy settings (rounds ++ [⟨c', asked⟩]) → BackedUp rounds) ∧
      ∀ name value, k = .putSnapshot name value → Stopped rounds ∧
        ∃ v source, SawDisk c' asked v source ∧
          name = Name.snapshotOf backupDisk ∧
          value = Etcd.snapshot v.location (some source) backupDisk := by
  have hreached := reached_of_run hours hstart hrun
  obtain ⟨hc, now, rfl⟩ := hnext
  have hissues : Issues (ensure settings now c') asked (.cloud account group k) := by
    cases q with
    | ask call resume =>
      cases hcall
      exact path.issues
    | _ => cases hcall
  obtain hstage | ⟨values, hsave⟩ := issues_ensure hissues
  · rw [hc.stage] at hstage
    have hround : Round.stage ⟨c', asked⟩ = stageIn c w := hc.stage
    have hcalls := (asks_stage settings c' (stateOf c') _).of_issues hstage
    -- The stages that make a request tell what was seen before it.
    generalize hsource : stageIn c w = source at hreached hstage hcalls hround
    refine ⟨?_, ?_, ?_⟩
    · rintro scaleSet inst rfl
      cases source <;> first | exact hreached.drained rfl | exact hcalls.elim
    · intro hreplaces hlegacy
      have hlate := late_of_calls hcalls hreplaces
      refine hreached.backedUp hlate (hlegacy.of_append ?_)
      rw [hround]
      rintro rfl
      cases hlate
    · rintro name value rfl
      have hensure : source = .ensureSnapshot := by
        cases source <;> first | rfl | exact hcalls.elim
      subst hensure
      obtain ⟨-, -, hname, -, v, source, hdisk, hvalue⟩ := copies (issues_keeping hstage)
      exact ⟨hreached.stopped rfl, v, source, hdisk, hname, hvalue⟩
  · cases hsave

/-! ## A run in which an old master is replaced -/

/-- The drainer changes no more than it may. -/
theorem others_drain (w : World) : Others w (drain w) :=
  ⟨rfl, fun _ _ => Table.map_at?_modify w.drains _ _ _ _ fun _ => rfl⟩

/-- The last pass that decides about a backup is the first one, which finds an old master. -/
theorem legacy_replacing :
    Legacy smallSettings ((replacing oldWorld 7).1 ++
      [⟨stored smallConfig (replacing oldWorld 7).2, (replacingNext oldWorld 7 1).1⟩]) := by
  generalize hrounds : (replacing oldWorld 7).1 ++
    [⟨stored smallConfig (replacing oldWorld 7).2, (replacingNext oldWorld 7 1).1⟩] = rounds
  have hall : ∀ r ∈ rounds, r.stage = .empty → FoundLegacy smallSettings r.given r.asked := by
    rw [← hrounds]
    decide +kernel
  rintro r after ⟨⟨before, rfl⟩, hempty, -⟩
  exact hall r (List.mem_append_right _ List.mem_cons_self) hempty

/-- Whether a request deallocates an instance. -/
def deallocates : CloudCall → Bool
  | .deallocate _ _ => true
  | _ => false

/-- Whether a request copies a disk. -/
def copiesDisk : CloudCall → Bool
  | .putSnapshot _ _ => true
  | _ => false

/-- Whether the next call is a request of a kind. -/
def isNext (kind : CloudCall → Bool) (next : Option Call) : Bool :=
  match next with
  | some (.cloud _ _ k) => kind k
  | _ => false

/-- The next call is then such a request. -/
theorem exists_of_isNext (kind : CloudCall → Bool) {next : Option Call}
    (h : isNext kind next = true) :
    ∃ account group k, next = some (.cloud account group k) ∧ kind k = true := by
  unfold isNext at h
  split at h
  · exact ⟨_, _, _, rfl, h⟩
  · cases h

/-- An old master is drained before the fourth pass stops it, stopped before the sixth pass copies
its disk, and backed up before the eighth pass deploys something new. -/
theorem replaced_in_order_old :
    Drained smallConfig.clusterId (replacing oldWorld 3).1 ∧ Stopped (replacing oldWorld 5).1 ∧
      BackedUp (replacing oldWorld 7).1 := by
  have hours : Ours smallConfig.clusterId oldWorld := fun name d hd => by cases hd
  have hstart : stageIn smallConfig oldWorld = .empty := by decide +kernel
  have hanswer := answers_changing others_drain (fun _ => rfl) false
  have horder := fun n calls account group (k : CloudCall)
      (hcall : (replacingNext oldWorld n calls).2.1.next? = some (.cloud account group k)) =>
    replaced_in_order hours hstart (run_replacing hanswer rfl oldWorld n) ⟨reads_stored _ _, _, rfl⟩
      (path_replacing hanswer rfl oldWorld n calls) hcall
  obtain ⟨account₁, group₁, k₁, hdeallocate, hk₁⟩ := exists_of_isNext deallocates
    (show isNext _ (replacingNext oldWorld 3 2).2.1.next? = true by decide +kernel)
  obtain ⟨account₂, group₂, k₂, hcopy, hk₂⟩ := exists_of_isNext copiesDisk
    (show isNext _ (replacingNext oldWorld 5 2).2.1.next? = true by decide +kernel)
  obtain ⟨account₃, group₃, k₃, hdeploy, hk₃⟩ := exists_of_isNext replaces
    (show isNext _ (replacingNext oldWorld 7 1).2.1.next? = true by decide +kernel)
  refine ⟨?_, ?_, ?_⟩
  · cases k₁ <;> first | exact (horder 3 2 _ _ _ hdeallocate).1 _ _ rfl | cases hk₁
  · cases k₂ <;> first | exact ((horder 5 2 _ _ _ hcopy).2.2 _ _ rfl).1 | cases hk₂
  · exact (horder 7 1 _ _ _ hdeploy).2.1 hk₃ legacy_replacing

/-! ## A run in which an old master disappears -/

/-- Nothing fails, and nothing is changed. -/
def calm (w : World) : World := { w with failures := .empty }

/-- The scale set of the masters is gone. -/
def gone (w : World) : World :=
  { w with failures := .empty, cluster := { w.cluster with scaleSets := .empty } }

/-- The handlers of two passes: what the first one writes is lost, and the second one finds no scale
set. -/
def disappearing : List (Handler World) := [World.changing calm true, World.changing gone false]

/-- The rounds of the two passes, and the world after them. -/
def disappeared : List (Round AzureConfig) × World :=
  play smallSettings smallConfig disappearing [] oldWorld

/-- The next pass after its first call. -/
def disappearedNext : List Asked × Program Nat × World :=
  advance (World.changing gone false) 1
    (ensure smallSettings ⟨0, 0⟩ (stored smallConfig disappeared.2)) disappeared.2

/-- Whether a call lists instances. -/
def listsInstances : Call → Bool
  | .cloud _ _ (.listInstances _) => true
  | _ => false

/-- It is not enough that the first pass found masters of an older version: when its write is lost,
a later pass decides anew, and something may be deployed without a backup. -/
theorem not_backedUp_of_first :
    ¬ ∀ (settings : PassSettings) (c : AzureConfig) (w₀ : World) (rounds : List (Round AzureConfig))
      (w : World) (c' : AzureConfig) (p : Program Nat) (asked : List Asked) (q : Program Nat)
      (w' : World) (account : Account) (group : String) (k : CloudCall),
      Ours c.clusterId w₀ → stageIn c w₀ = .empty → Run besideDrainer settings c w₀ rounds w →
      Next settings c w c' p → Path besideDrainer p w asked q w' →
      (∃ r rest, rounds = r :: rest ∧ FoundLegacy settings r.given r.asked) →
      q.next? = some (.cloud account group k) → replaces k = true → BackedUp rounds := by
  intro hclaim
  have hcalm : ∀ w, Others w (calm w) := fun w => ⟨rfl, .refl _⟩
  have hgone : ∀ w, Others w (gone w) := fun w => ⟨rfl, .refl _⟩
  have hrun : Run besideDrainer smallSettings smallConfig oldWorld disappeared.1 disappeared.2 := by
    refine run_play (fun h hh => ?_) .start
    rcases List.mem_cons.1 hh with rfl | hh
    · exact ⟨answers_changing hcalm (fun _ => rfl) true, rfl⟩
    · cases List.mem_singleton.1 hh
      exact ⟨answers_changing hgone (fun _ => rfl) false, rfl⟩
  have hfirst : ∃ r rest, disappeared.1 = r :: rest ∧ FoundLegacy smallSettings r.given r.asked :=
    ⟨_, _, rfl, by decide +kernel⟩
  obtain ⟨account, group, k, hnext, hreplaces⟩ := exists_of_isNext replaces
    (show isNext _ disappearedNext.2.1.next? = true by decide +kernel)
  obtain ⟨before, r, after, hsplit, ⟨r', hr', v, ⟨others, hlist⟩, -⟩, -⟩ :=
    hclaim smallSettings smallConfig oldWorld disappeared.1 disappeared.2 _ _ disappearedNext.1
      disappearedNext.2.1 disappearedNext.2.2 account group k (fun name d hd => by cases hd)
      (by decide +kernel) hrun ⟨reads_stored _ _, _, rfl⟩
      (path_advance (answers_changing hgone (fun _ => rfl) false) rfl 1 _ _) hfirst hnext hreplaces
  -- No pass looked for a master.
  have hnone : ∀ r ∈ disappeared.1, ∀ a ∈ r.asked, listsInstances a.call = false := by
    decide +kernel
  have hmem : r' ∈ disappeared.1 := by
    rw [hsplit]
    exact List.mem_append_left _ hr'
  cases hnone r' hmem _ hlist

end Masters

end TenantFleet
