/-
# A master that was stopped is started again

The first master is stopped before its disk is copied, and started only after the deployment, on a
way that is taken when its backup is still there. Between the two everything may fail, and a
deployment that fails is submitted again. What is known in each stage about the rounds so far
carries over from pass to pass.

* `StartedAgain` : that a master was started and none stopped since;
* `Pending` : that the accepted backup has not led to a migration yet;
* `Standing` : what the stored stage and checksums stand for;
* `started_of_stopped` : when the masters are completed, a master that was stopped has been started
  again.
-/
import TenantFleet.Proofs.Masters.Order

namespace TenantFleet

open Program

/-! ## Stopping and starting -/

/-- Whether a call stops an instance. -/
def Call.stops : Call → Bool
  | .cloud _ _ k => Masters.deallocates k
  | _ => false

/-- Whether a pass asked for an instance to be stopped, whatever came back. -/
def Round.stops (r : Round AzureConfig) : Bool := r.asked.any fun a => a.call.stops

namespace Masters

variable {settings : PassSettings} {c c' : AzureConfig} {w w' w₀ : World} {now : Timestamp}
  {rounds : List (Round AzureConfig)} {asked trace : List Asked} {q : Program Nat}
  {r : Round AzureConfig} {s : HandlerState} {o : Outcome MastersStage}
  {source target : MastersStage}

/-- Whether a pass started the master that was then listed first. -/
def StartedFirst (c : AzureConfig) (asked : List Asked) : Prop :=
  ∃ v rest operation,
    ⟨.cloud c.group.account c.group.name (.listInstances (scaleSetOf c)), .ok (v :: rest)⟩ ∈ asked ∧
      ⟨.cloud c.group.account c.group.name (.start (scaleSetOf c) v.instanceId),
        .ok operation⟩ ∈ asked

/-- Whether the first master was started, and none was stopped in that pass or later. -/
def StartedAgain (rounds : List (Round AzureConfig)) : Prop :=
  ∃ before r after, rounds = before ++ r :: after ∧ StartedFirst r.given r.asked ∧
    ∀ r' ∈ r :: after, r'.stops = false

/-- Whether no master is left stopped: if one was stopped at all, it was started since. -/
def Restarted (rounds : List (Round AzureConfig)) : Prop :=
  (∃ r ∈ rounds, r.stops = true) → StartedAgain rounds

/-! ## The backup -/

/-- Whether the last pass that looked after the backup accepted one, and the migration that it leads
to was not begun since. -/
def Pending (rounds : List (Round AzureConfig)) : Prop :=
  ∃ r after s, LastIn .ensureSnapshot rounds r after ∧ SawBackup r.given r.asked s ∧
    ∀ r' ∈ after, r'.stage ≠ .etcdMigrationCheck

/-- Whether a listing of snapshots, if a call was answered with one, shows a backup. -/
def showsBackup : Asked → Bool
  | ⟨.cloud _ _ .listSnapshots, .ok l⟩ => l.any (Etcd.isSnapshotOf backupDisk)
  | _ => true

/-- Whether the backup that was accepted last stays listed, up to the pass that begins the
migration. -/
def StaysListed (rounds : List (Round AzureConfig)) : Prop :=
  ∀ r after s, LastIn .ensureSnapshot rounds r after → SawBackup r.given r.asked s →
    ∀ first r' rest, after = first ++ r' :: rest → (∀ x ∈ first, x.stage ≠ .etcdMigrationCheck) →
      ∀ a ∈ r'.asked, showsBackup a = true

/-! ## Rounds that go by -/

/-- One more round without a stop. -/
theorem stops_append (h : ∀ r ∈ rounds, r.stops = false) (hr : r.stops = false) :
    ∀ r' ∈ rounds ++ [r], r'.stops = false := by
  intro r' hr'
  rcases List.mem_append.1 hr' with hr' | hr'
  · exact h r' hr'
  · cases List.mem_singleton.1 hr'
    exact hr

theorem StartedAgain.append (h : StartedAgain rounds) (hr : r.stops = false) :
    StartedAgain (rounds ++ [r]) := by
  obtain ⟨before, r₀, after, rfl, hstarted, hstops⟩ := h
  refine ⟨before, r₀, after ++ [r], by rw [List.append_assoc, List.cons_append], hstarted, ?_⟩
  exact stops_append hstops hr

theorem Restarted.append (h : Restarted rounds) (hr : r.stops = false) :
    Restarted (rounds ++ [r]) := by
  rintro ⟨r', hmem, hstops⟩
  rcases List.mem_append.1 hmem with hmem | hmem
  · exact (h ⟨r', hmem, hstops⟩).append hr
  · cases List.mem_singleton.1 hmem
    rw [hr] at hstops
    cases hstops

theorem Pending.append (h : Pending rounds) (hensure : r.stage ≠ .ensureSnapshot)
    (hcheck : r.stage ≠ .etcdMigrationCheck) : Pending (rounds ++ [r]) := by
  obtain ⟨r₀, after, s, hlast, hsaw, hafter⟩ := h
  refine ⟨r₀, after ++ [r], s, hlast.append hensure, hsaw, ?_⟩
  intro r' hr'
  rcases List.mem_append.1 hr' with hr' | hr'
  · exact hafter r' hr'
  · cases List.mem_singleton.1 hr'
    exact hcheck

theorem StaysListed.of_append (h : StaysListed (rounds ++ [r]))
    (hensure : r.stage ≠ .ensureSnapshot) :
    StaysListed rounds := by
  rintro r₀ after s hlast hsaw first r' rest rfl hfirst
  refine h r₀ _ s (hlast.append hensure) hsaw first r' (rest ++ [r]) ?_ hfirst
  rw [List.append_assoc, List.cons_append]

/-- While a backup waits for its migration, the next pass finds it listed. -/
theorem StaysListed.next (h : StaysListed (rounds ++ [r])) (hpending : Pending rounds)
    (hensure : r.stage ≠ .ensureSnapshot) : ∀ a ∈ r.asked, showsBackup a = true := by
  obtain ⟨r₀, after, s, hlast, hsaw, hafter⟩ := hpending
  exact h r₀ _ s (hlast.append hensure) hsaw after r [] rfl hafter

/-! ## What the stages stand for -/

/-- What the stored stage and the stored map stand for, given the rounds so far. -/
def Standing (rounds : List (Round AzureConfig)) (s : HandlerState) : MastersStage → Prop
  | .empty | .backupEtcdDisk | .waitForMastersToDrain =>
    (∀ r ∈ rounds, r.stops = false) ∧ s.templateChecksum = none
  | .stopMasters | .ensureSnapshot => s.templateChecksum = none
  | .deploymentUninitialized => Restarted rounds ∨ (Pending rounds ∧ s.templateChecksum = none)
  | .deploymentInitialized => Restarted rounds ∨ Pending rounds
  | .etcdMigrationCheck | .updateMaster | .reimageMaster | .startMaster => True
  | .provisioningSuccessful | .clusterUpgradeRequirementCheck | .masterInstancesUpgrading
  | .waitForMastersToBecomeReady | .deploymentCompleted => Restarted rounds

/-- Where no master is left stopped, all stages that need that stand. -/
theorem Standing.of_restarted (h : Restarted rounds) (hlate : late target = true) :
    Standing rounds s target := by
  cases target with
  | deploymentUninitialized => exact Or.inl h
  | deploymentInitialized => exact Or.inl h
  | etcdMigrationCheck => trivial
  | updateMaster => trivial
  | reimageMaster => trivial
  | startMaster => trivial
  | provisioningSuccessful => exact h
  | clusterUpgradeRequirementCheck => exact h
  | masterInstancesUpgrading => exact h
  | waitForMastersToBecomeReady => exact h
  | deploymentCompleted => exact h
  | _ => cases hlate

/-- As long as no master was stopped, every stage stands that needs no checksums. -/
theorem Standing.of_fresh (h : ∀ r ∈ rounds, r.stops = false) (hs : s.templateChecksum = none)
    (target : MastersStage) : Standing rounds s target := by
  have hrestarted : Restarted rounds := by
    rintro ⟨r, hr, hstops⟩
    rw [h r hr] at hstops
    cases hstops
  cases target with
  | empty => exact ⟨h, hs⟩
  | backupEtcdDisk => exact ⟨h, hs⟩
  | waitForMastersToDrain => exact ⟨h, hs⟩
  | stopMasters => exact hs
  | ensureSnapshot => exact hs
  | _ => exact .of_restarted hrestarted rfl

/-- A round that leaves the map leaves what the stage stands for. -/
theorem Standing.stays (h : Standing rounds s r.stage)
    (hstops : r.stage ≠ .stopMasters → r.stops = false) : Standing (rounds ++ [r]) s r.stage := by
  generalize hstage : r.stage = source at h hstops
  cases source with
  | empty => exact ⟨stops_append h.1 (hstops (by decide)), h.2⟩
  | backupEtcdDisk => exact ⟨stops_append h.1 (hstops (by decide)), h.2⟩
  | waitForMastersToDrain => exact ⟨stops_append h.1 (hstops (by decide)), h.2⟩
  | stopMasters => exact h
  | ensureSnapshot => exact h
  | deploymentUninitialized =>
    rcases h with h | ⟨h, hnone⟩
    · exact Or.inl (h.append (hstops (by decide)))
    · exact Or.inr ⟨h.append (by rw [hstage]; decide) (by rw [hstage]; decide), hnone⟩
  | deploymentInitialized =>
    rcases h with h | h
    · exact Or.inl (h.append (hstops (by decide)))
    · exact Or.inr (h.append (by rw [hstage]; decide) (by rw [hstage]; decide))
  | etcdMigrationCheck => trivial
  | updateMaster => trivial
  | reimageMaster => trivial
  | startMaster => trivial
  | provisioningSuccessful => exact Restarted.append h (hstops (by decide))
  | clusterUpgradeRequirementCheck => exact Restarted.append h (hstops (by decide))
  | masterInstancesUpgrading => exact Restarted.append h (hstops (by decide))
  | waitForMastersToBecomeReady => exact Restarted.append h (hstops (by decide))
  | deploymentCompleted => exact Restarted.append h (hstops (by decide))

/-- What a stage stands for does not depend on the stage and the time in the map. -/
theorem Standing.congr (h : Standing rounds s target) {s' : HandlerState}
    (hs : s'.templateChecksum = s.templateChecksum) : Standing rounds s' target := by
  unfold Standing at h ⊢
  rw [hs]
  exact h

/-! ## What the stages end with -/

/-- Without the checksum of a template, every template is submitted. -/
theorem submitted_of_unknown {g : ResourceGroup} {name : String} {t : DeploymentTemplate}
    {result : Bool × HandlerState} (hs : s.templateChecksum = none)
    (h : Yields (submitIfChanged g name s t) trace result) : result.1 = true := by
  unfold submitIfChanged at h
  split at h
  · rename_i hdrift
    have hknows := (knows_of_drift_eq_none hdrift).1
    rw [hs] at hknows
    cases hknows
  · obtain ⟨_, _, _, -, -, hend⟩ := yields_bind.1 h
    cases (yields_done.1 hend).2
    rfl

/-- Without the checksum of a template, the deployment is submitted. -/
theorem advances_submit (hs : s.templateChecksum = none)
    (h : Yields (submit settings c s) trace o) :
    o.transition.stage = .deploymentInitialized := by
  obtain ⟨t, _, _, -, -, h⟩ := yields_bind.1 h
  obtain ⟨⟨submitted, s'⟩, _, _, -, hsubmit, hend⟩ := yields_bind.1 h
  obtain rfl : submitted = true := submitted_of_unknown hs hsubmit
  cases (yields_done.1 hend).2
  rfl

/-- When the deployment was observed and the backup is listed, it goes on, is forgotten, or leads to
the migration. -/
theorem advances_observe (h : Yields (observe settings c s) trace o)
    (hlisted : ∀ a ∈ trace, showsBackup a = true) :
    o.transition.stage = .deploymentInitialized ∨ o.transition.stage = .etcdMigrationCheck ∨
      (o.transition.stage = .deploymentUninitialized ∧ o.state.templateChecksum = none) := by
  obtain ⟨state, before, after, rfl, -, hend⟩ := yields_bind.1 h
  cases state with
  | succeeded =>
    obtain ⟨backup, own, rest, rfl, hfind, hend⟩ := yields_bind.1 hend
    obtain ⟨l, rfl, rfl⟩ := yields_findBackup.1 hfind
    cases (yields_done.1 hend).2
    have hshows : l.any (Etcd.isSnapshotOf backupDisk) = true :=
      hlisted ⟨.cloud c.group.account c.group.name .listSnapshots, .ok l⟩
        (List.mem_append_right _ List.mem_cons_self)
    have hfound : (l.find? (Etcd.isSnapshotOf backupDisk)).isSome = true := by
      rw [List.find?_isSome]
      exact List.any_eq_true.1 hshows
    right
    left
    show (if (l.find? (Etcd.isSnapshotOf backupDisk)).isSome then MastersStage.etcdMigrationCheck
      else .provisioningSuccessful) = .etcdMigrationCheck
    rw [if_pos hfound]
  | failed =>
    cases (yields_done.1 hend).2
    exact Or.inr (Or.inr ⟨rfl, (HandlerState.checksums_clearChecksums s).1⟩)
  | missing =>
    cases (yields_done.1 hend).2
    exact Or.inr (Or.inr ⟨rfl, (HandlerState.checksums_clearChecksums s).1⟩)
  | running =>
    cases (yields_done.1 hend).2
    exact Or.inl rfl

/-- The stage that starts the first master goes on when it did. -/
theorem advances_start {t : Transition MastersStage} (h : Yields (start settings c) trace t)
    (ht : t.stage ≠ .startMaster) : StartedFirst c trace := by
  obtain ⟨v, _, after, rfl, hfirst, hrest⟩ := yields_bind.1 h
  obtain ⟨others, rfl⟩ := yields_firstInstance.1 hfirst
  split at hrest
  · obtain ⟨operation, _, _, rfl, hstart, -⟩ := yields_bind.1 hrest
    obtain rfl := yields_groupCall.1 hstart
    refine ⟨v, others, operation, List.mem_cons_self, ?_⟩
    exact List.mem_append_right _ (List.mem_append_left _ List.mem_cons_self)
  · cases (yields_done.1 hrest).2
    exact absurd rfl ht

/-! ## One more pass -/

/-- Behind the backup the stages stay there. -/
theorem late_of_follows (h : Stage.follows source target = true) (hsource : late source = true) :
    late target = true := by
  cases htarget : late target with
  | true => rfl
  | false =>
    rw [(early_of_follows h htarget).1] at hsource
    cases hsource

/-- A round that ends its stage leaves what the next stage stands for. -/
theorem Standing.ends (h : Standing rounds s r.stage)
    (hdone : Yields (stage settings r.given s r.stage) trace o) (hsub : trace ⊆ r.asked)
    (hfollows : Stage.follows r.stage o.transition.stage = true)
    (hstops : r.stage ≠ .stopMasters → r.stops = false)
    (hlisted : late o.transition.stage = true → StaysListed (rounds ++ [r])) :
    Standing (rounds ++ [r]) o.state o.transition.stage := by
  -- Where no master is left stopped, that stays so in all stages behind the backup.
  have hrestarted : late r.stage = true → Restarted rounds →
      Standing (rounds ++ [r]) o.state o.transition.stage := by
    intro hlate hrounds
    refine .of_restarted (hrounds.append (hstops ?_)) (late_of_follows hfollows hlate)
    intro hstage
    rw [hstage] at hlate
    cases hlate
  generalize hstage : r.stage = source at h hdone hfollows hstops hrestarted
  cases source with
  | empty =>
    rw [(yields_keeping.1 hdone).1]
    exact .of_fresh (stops_append h.1 (hstops (by decide))) h.2 _
  | backupEtcdDisk =>
    rw [(yields_keeping.1 hdone).1]
    exact .of_fresh (stops_append h.1 (hstops (by decide))) h.2 _
  | waitForMastersToDrain =>
    rw [(yields_keeping.1 hdone).1]
    exact .of_fresh (stops_append h.1 (hstops (by decide))) h.2 _
  | stopMasters =>
    rw [(yields_keeping.1 hdone).1]
    generalize o.transition.stage = target at hfollows
    cases target <;> first | exact h | cases hfollows
  | ensureSnapshot =>
    obtain ⟨hstate, hdone⟩ := yields_keeping.1 hdone
    rw [hstate]
    by_cases hleft : o.transition.stage = .ensureSnapshot
    · rw [hleft]
      exact h
    · obtain ⟨x, hsaw⟩ := advances_backUp hdone hleft
      have hpending : Pending (rounds ++ [r]) :=
        ⟨r, [], x, .here rounds hstage, hsaw.mono hsub, fun _ hr => by cases hr⟩
      generalize o.transition.stage = target at hfollows hleft
      cases target <;> first | exact Or.inr ⟨hpending, h⟩ | exact absurd rfl hleft | cases hfollows
  | deploymentUninitialized =>
    rcases h with h | ⟨h, hnone⟩
    · exact hrestarted rfl h
    · rw [advances_submit hnone hdone]
      exact Or.inr (h.append (by rw [hstage]; decide) (by rw [hstage]; decide))
  | deploymentInitialized =>
    rcases h with h | h
    · exact hrestarted rfl h
    · have hpending := h.append (r := r) (by rw [hstage]; decide) (by rw [hstage]; decide)
      have hnext := (hlisted (late_of_follows hfollows rfl)).next h (by rw [hstage]; decide)
      rcases advances_observe hdone (fun a ha => hnext a (hsub ha)) with ht | ht | ⟨ht, hnone⟩
      · rw [ht]
        exact Or.inr hpending
      · rw [ht]
        trivial
      · rw [ht]
        exact Or.inr ⟨hpending, hnone⟩
  | provisioningSuccessful => exact hrestarted rfl h
  | etcdMigrationCheck =>
    cases (yields_done.1 hdone).2
    trivial
  | updateMaster =>
    generalize o.transition.stage = target at hfollows
    cases target <;> trivial
  | reimageMaster =>
    generalize o.transition.stage = target at hfollows
    cases target <;> trivial
  | startMaster =>
    by_cases hleft : o.transition.stage = .startMaster
    · rw [hleft]
      trivial
    · obtain ⟨v, rest, operation, hlist, hstart⟩ := advances_start (yields_keeping.1 hdone).2 hleft
      have hstarted : StartedAgain (rounds ++ [r]) := by
        refine ⟨rounds, r, [], rfl, ⟨v, rest, operation, hsub hlist, hsub hstart⟩, ?_⟩
        intro r' hr'
        cases List.mem_singleton.1 hr'
        exact hstops (by decide)
      exact .of_restarted (fun _ => hstarted) (late_of_follows hfollows rfl)
  | clusterUpgradeRequirementCheck => exact hrestarted rfl h
  | masterInstancesUpgrading => exact hrestarted rfl h
  | waitForMastersToBecomeReady => exact hrestarted rfl h
  | deploymentCompleted => exact hrestarted rfl h

/-- Only one stage stops a master. -/
theorem stops_of_calls {call : Call} (h : source.calls call) (hstops : call.stops = true) :
    source = .stopMasters := by
  cases call with
  | cloud account group k =>
    cases k with
    | deallocate scaleSet inst => cases source <;> first | rfl | exact h.elim
    | _ => cases hstops
  | _ => cases hstops

/-- A pass leaves what the stored stage stands for. -/
theorem standing_of_pass {E : Surroundings World} (hE : Storing E) (hc : Reads c w c')
    (path : Path E (ensure settings now c') w asked q w')
    (h : Standing rounds (stateOf (stored c w)) (stageIn c w))
    (hlisted : late (stageIn c w') = true → StaysListed (rounds ++ [⟨c', asked⟩])) :
    Standing (rounds ++ [⟨c', asked⟩]) (stateOf (stored c w')) (stageIn c w') := by
  have hround : Round.stage ⟨c', asked⟩ = stageIn c w := hc.stage
  have hstops : stageIn c w ≠ .stopMasters → Round.stops ⟨c', asked⟩ = false := by
    intro hstage
    refine Bool.eq_false_iff.2 fun hstop => ?_
    obtain ⟨a, ha, hstop⟩ := List.any_eq_true.1 hstop
    rcases calls_of_pass hc path ha with hcalls | ⟨values, hsave⟩
    · exact hstage (stops_of_calls hcalls hstop)
    · rw [hsave] at hstop
      cases hstop
  rw [← hround] at h hstops
  rcases state_of_pass hE hc path with hsame |
    ⟨o, before, target, values, r, rfl, hdone, hfollows, hstate⟩
  · have hstage : stageIn c w' = Round.stage ⟨c', asked⟩ := by
      rw [hround]
      unfold stageIn
      rw [hsame]
    rw [hsame, hstage]
    exact h.stays hstops
  · have hstage : stageIn c w' = o.transition.stage := by
      unfold stageIn
      rw [hstate]
      exact stage_of_after o.state o.transition now
    rw [← hround, hc.state] at hdone
    rw [← hround] at hfollows
    rw [hstage] at hlisted ⊢
    rw [hstate]
    refine (h.ends hdone (List.subset_append_left _ _) hfollows hstops hlisted).congr ?_
    exact (checksums_of_after o.state o.transition now).1

/-- What the stored stage stands for holds throughout a run that starts without a map. -/
theorem standing_of_run {E : Surroundings World} (hE : Storing E)
    (hstart : stateOf (stored c w₀) = ⟨.empty⟩) (hrun : Run E settings c w₀ rounds w)
    (hlisted : late (stageIn c w) = true → StaysListed rounds) :
    Standing rounds (stateOf (stored c w)) (stageIn c w) := by
  induction hrun with
  | start =>
    have hstage : stageIn c w₀ = .empty := by
      unfold stageIn
      rw [hstart]
      rfl
    rw [hstart, hstage]
    exact .of_fresh (fun _ hr => by cases hr) rfl _
  | next before hp path ih =>
    obtain ⟨hc, now, rfl⟩ := hp
    refine standing_of_pass hE hc path (ih fun hlate => ?_) hlisted
    -- Behind the backup nothing looks after it any more, so the same one is the last that was
    -- accepted.
    refine (hlisted (late_of_follows (follows_of_pass hE hc path) hlate)).of_append ?_
    intro hensure
    rw [← hc.stage, show (stateOf _).stage MastersStage = Round.stage ⟨_, _⟩ from rfl, hensure]
      at hlate
    cases hlate

/-- **A master that was stopped is started again.** In a run that starts without a stored map, in
which the backup that was accepted stays listed until the migration begins, and whatever else fails
or changes: when the stored stage is the last one and a pass has asked for a master to be stopped, a
later pass has started the master that was then listed first, and none was stopped since. -/
theorem started_of_stopped {E : Surroundings World} (hE : Storing E)
    (hstart : stateOf (stored c w₀) = ⟨.empty⟩) (hrun : Run E settings c w₀ rounds w)
    (hlisted : StaysListed rounds) (hcompleted : stageIn c w = .deploymentCompleted)
    (hstopped : ∃ r ∈ rounds, r.stops = true) :
    ∃ before r after, rounds = before ++ r :: after ∧ (∃ r' ∈ before, r'.stops = true) ∧
      StartedFirst r.given r.asked ∧ ∀ r' ∈ r :: after, r'.stops = false := by
  have hstanding := standing_of_run hE hstart hrun fun _ => hlisted
  rw [hcompleted] at hstanding
  obtain ⟨before, r, after, hsplit, hstarted, hsince⟩ := hstanding hstopped
  refine ⟨before, r, after, hsplit, ?_, hstarted, hsince⟩
  obtain ⟨r', hr', hstops⟩ := hstopped
  rw [hsplit] at hr'
  rcases List.mem_append.1 hr' with hr' | hr'
  · exact ⟨r', hr', hstops⟩
  · rw [hsince r' hr'] at hstops
    cases hstops

/-! ## A run in which an old master is replaced -/

/-- Outside the stage that looks after the backup, it is always listed. -/
theorem staysListed_replacing : StaysListed (replacing soundWorld 14).1 := by
  have hall : ∀ r ∈ (replacing soundWorld 14).1, r.stage ≠ .ensureSnapshot →
      ∀ a ∈ r.asked, showsBackup a = true := by
    decide +kernel
  rintro r after s ⟨⟨before, hsplit⟩, -, hlast⟩ - first r' rest rfl - a ha
  have hmem : r' ∈ first ++ r' :: rest := List.mem_append_right _ List.mem_cons_self
  refine hall r' ?_ (hlast r' hmem) a ha
  rw [hsplit]
  exact List.mem_append_right _ (List.mem_cons_of_mem _ hmem)

/-- After fourteen passes the masters are completed, and the one that the fourth pass stopped has
been started again. -/
theorem started_of_stopped_sound :
    stateOf (stored smallConfig soundWorld) = ⟨.empty⟩ ∧
      stageIn smallConfig (replacing soundWorld 14).2 = .deploymentCompleted ∧
      ∃ before r after, (replacing soundWorld 14).1 = before ++ r :: after ∧
        (∃ r' ∈ before, r'.stops = true) ∧ StartedFirst r.given r.asked ∧
        ∀ r' ∈ r :: after, r'.stops = false := by
  have hstart : stateOf (stored smallConfig soundWorld) = ⟨.empty⟩ := by decide +kernel
  have hcompleted : stageIn smallConfig (replacing soundWorld 14).2 = .deploymentCompleted := by
    decide +kernel
  have hrun := run_replacing (answers_changing others_drain (fun _ => rfl) false) rfl soundWorld 14
  exact ⟨hstart, hcompleted, started_of_stopped storing_besideDrainer hstart hrun
    staysListed_replacing hcompleted (by decide +kernel)⟩

end Masters

end TenantFleet
