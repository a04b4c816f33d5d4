/-
# Going through the masters

To back up the masters' disks, a drain request is created for each master node; when the drainer has
answered them all they are deleted. Both stages go through a list, and a pass that begins anew finds
what is left: the requests that exist are not created again, and those that were deleted are not
listed any more.

* `lookForNodes`, `lookForRequests` : what the two stages look for;
* `requestDrains_eq`, `awaitDrains_eq` : the stages as looping passes;
* `resumable_lookForNodes`, `resumable_lookForRequests` : that a pass that begins anew finds what is
  left.
-/
import TenantFleet.Proofs.Pass.Looping

namespace TenantFleet

open Program

/-- To go through the images of items is to go through the items. -/
theorem Program.forEach_map {α β : Type} (f : α → β) (step : β → Program Unit) (l : List α) :
    forEach (l.map f) step = forEach l fun a => step (f a) := by
  induction l with
  | nil => rfl
  | cons a rest ih =>
    show (step (f a)).bind _ = (step (f a)).bind _
    rw [ih]

namespace Masters

variable {settings : PassSettings} {c : AzureConfig} {w : World} {l : List Chore}

/-! ## Drain requests for the masters -/

/-- What is to be created: a drain request for each master node, once the cluster can be reached. -/
def lookForNodes (c : AzureConfig) : Program (Option (List Chore)) := do
  match ← Tenant.open? c.metadata.spaceName c.clusterId with
  | none => return none
  | some tenant =>
    let nodes ← tenant.nodes Name.masterSelector
    return some (nodes.map fun n => .request (drainRequest c n))

/-- A drain request of a master is a chore. -/
theorem requestDrain_eq (c : AzureConfig) :
    requestDrain c = fun n => (Chore.request (drainRequest c n)).program := by
  refine funext fun n => congrArg (Program.ask _) (funext fun r => ?_)
  rcases r with e | d
  · dsimp only [Chore.verdict]
    split <;> rfl
  · rfl

/-- The stage goes through the master nodes. -/
theorem requestDrains_eq (settings : PassSettings) (c : AzureConfig) :
    requestDrains settings c = looping (lookForNodes c)
      (.done (.ok (.wait .backupEtcdDisk settings.wait)))
      (.done (.ok (.advance .waitForMastersToDrain))) := by
  unfold requestDrains looping lookForNodes
  simp only [bind_eq, bind_assoc]
  congr 1
  funext found
  cases found with
  | none => rfl
  | some tenant =>
    simp only [pure_eq, bind_assoc]
    congr 1
    funext nodes
    show _ = (forEach (nodes.map _) Chore.program).bind _
    rw [forEach_map, requestDrain_eq]

/-- The master nodes of a world. -/
def nodesIn (w : World) : List Node := w.nodes.values.filter fun n =>
    n.selectedBy Name.masterSelector

/-- What is found for the masters. -/
theorem run_lookForNodes (c : AzureConfig) (w : World) :
    run World.plain (lookForNodes c) w =
      (.ok (if w.reachable then some ((nodesIn w).map fun n => .request (drainRequest c n))
        else none), w) := by
  have hopen : run World.plain (Tenant.open? c.metadata.spaceName c.clusterId) w =
      (.ok (if w.reachable then some ⟨c.metadata.spaceName, c.clusterId⟩ else none), w) := rfl
  unfold lookForNodes
  rw [bind_eq, run_bind, hopen]
  cases w.reachable <;> rfl

/-- Drain requests that were made leave the nodes. -/
theorem nodesIn_after_requests (f : Node → DrainerConfig) (nodes : List Node) (w : World) :
    nodesIn (Chore.after (nodes.map fun n => .request (f n)) w) = nodesIn w ∧
      (Chore.after (nodes.map fun n => .request (f n)) w).reachable = w.reachable := by
  have hspares := Chore.spares_after (nodes.map fun n => .request (f n)) w
  have hnodes : (Chore.after (nodes.map fun n => .request (f n)) w).nodes = w.nodes := by
    refine Dict.ext_get? fun name => hspares.nodes name fun hmem => ?_
    obtain ⟨x, hx, hdeed⟩ := Chore.exists_of_mem_deeds hmem
    obtain ⟨n, -, rfl⟩ := List.mem_map.1 hx
    cases hdeed
  have happart : (Chore.after (nodes.map fun n => .request (f n)) w).apart.reachable =
      w.apart.reachable := by
    rw [hspares.apart]
  exact ⟨by rw [nodesIn, hnodes, nodesIn], happart⟩

/-- What was found for the masters. -/
theorem found_lookForNodes (hl : (run World.plain (lookForNodes c) w).1 = .ok (some l)) :
    w.reachable = true ∧ l = (nodesIn w).map fun n => .request (drainRequest c n) := by
  rw [run_lookForNodes] at hl
  cases hw : w.reachable with
  | false =>
    rw [hw] at hl
    cases hl
  | true =>
    rw [hw] at hl
    exact ⟨rfl, (Option.some.inj (Except.ok.inj hl)).symm⟩

/-- A pass over the master nodes that begins anew asks for the same drains, and those that were
asked for stay as they are. -/
theorem resumable_lookForNodes (c : AzureConfig) :
    Resumable (lookForNodes c) fun w => w.Calm ∧ w.Keyed where
  asks := by
    refine .bind (.bind (.call rfl) fun _ => trivial) fun found => ?_
    cases found with
    | none => trivial
    | some tenant => exact .bind (.call rfl) fun _ => trivial
  still w := by rw [run_lookForNodes]
  again := by
    intro w l k _ hl
    obtain ⟨hw, rfl⟩ := found_lookForNodes hl
    have hlasting := Chore.lasting_requests (drainRequest c) (nodesIn w)
    obtain ⟨hafter, hdeeds⟩ := hlasting.resume (w := w) (fun _ => true) k fun _ _ h => by cases h
    rw [List.filter_eq_self.2 fun _ _ => rfl] at hafter hdeeds
    refine ⟨_, ?_, hafter, hdeeds⟩
    obtain ⟨hnodes, hreachable⟩ := nodesIn_after_requests (drainRequest c) ((nodesIn w).take k) w
    rw [run_lookForNodes, ← List.map_take, hnodes, hreachable, hw]
    rfl
  nodup := by
    intro w l _ hl
    obtain ⟨-, rfl⟩ := found_lookForNodes hl
    exact (Chore.lasting_requests (drainRequest c) (nodesIn w)).nodup_deeds w

/-! ## Drain requests that were answered -/

/-- What is to be deleted: all drain requests of the cluster, once the drainer has answered them. -/
def lookForRequests (c : AzureConfig) : Program (Option (List Chore)) := do
  let requests ← Program.call (.listDrains c.clusterId c.clusterId)
  if requests.all DrainerConfig.finished then
    return some (requests.map fun d => .withdraw c.clusterId d.metadata.anyName)
  else return none

/-- To withdraw a drain request is a chore. -/
theorem withdrawDrain_eq (c : AzureConfig) :
    withdrawDrain c = fun d => (Chore.withdraw c.clusterId d.metadata.anyName).program := by
  refine funext fun d => congrArg (Program.ask _) (funext fun r => ?_)
  rcases r with e | d
  · dsimp only [Chore.verdict, Tenant.unlessMissing]
    split <;> rfl
  · rfl

/-- The stage goes through the drain requests. -/
theorem awaitDrains_eq (settings : PassSettings) (c : AzureConfig) :
    awaitDrains settings c = looping (lookForRequests c)
      (.done (.ok (.wait .waitForMastersToDrain settings.wait)))
      (.done (.ok (.advance .stopMasters))) := by
  unfold awaitDrains looping lookForRequests
  simp only [bind_eq, bind_assoc]
  congr 1
  funext requests
  split
  · show _ = (forEach (requests.map _) Chore.program).bind _
    rw [forEach_map, withdrawDrain_eq]
    rfl
  · rfl

/-- The drain requests of a cluster in a world. -/
def requestsIn (c : AzureConfig) (w : World) : List DrainerConfig :=
  (Table.row w.drains c.clusterId).values.filter (World.drainsCluster c.clusterId)

/-- The deletion of a drain request. -/
def withdrawal (c : AzureConfig) (d : DrainerConfig) : Chore :=
  .withdraw c.clusterId d.metadata.anyName

/-- What is found of the drain requests. -/
theorem run_lookForRequests (c : AzureConfig) (w : World) :
    run World.plain (lookForRequests c) w =
      (.ok (if (requestsIn c w).all DrainerConfig.finished
        then some ((requestsIn c w).map (withdrawal c)) else none), w) := by
  have hlisted : run World.plain (Program.call (.listDrains c.clusterId c.clusterId)) w =
      (.ok (requestsIn c w), w) := rfl
  unfold lookForRequests
  rw [bind_eq, run_bind, hlisted]
  dsimp only
  split <;> rfl

/-- What was found of the drain requests. -/
theorem found_lookForRequests (hl : (run World.plain (lookForRequests c) w).1 = .ok (some l)) :
    (requestsIn c w).all DrainerConfig.finished = true ∧
    l = (requestsIn c w).map (withdrawal c) := by
  rw [run_lookForRequests] at hl
  cases hw : (requestsIn c w).all DrainerConfig.finished with
  | false =>
    rw [hw] at hl
    cases hl
  | true =>
    rw [hw] at hl
    exact ⟨rfl, (Option.some.inj (Except.ok.inj hl)).symm⟩

/-- A drain request is listed under its own name. -/
theorem mem_requestsIn {d : DrainerConfig} (hw : w.Keyed) (hd : d ∈ requestsIn c w) :
    Table.at? w.drains c.clusterId (d.metadata.name.getD "") = some d := by
  obtain ⟨name, hname⟩ := Dict.mem_values.1 (List.mem_filter.1 hd).1
  have hown : d.metadata.name.getD "" = name := hw.drains hname
  rw [hown]
  exact hname

/-- Whether a drain request is still found under its name. -/
def remains (c : AzureConfig) (w : World) (d : DrainerConfig) : Bool :=
  (Table.at? w.drains c.clusterId (d.metadata.name.getD "")).isSome

/-- After drain requests were deleted, those are listed that remain. -/
theorem requestsIn_after (hw : w.Keyed) (names : List String) :
    requestsIn c (Chore.after (names.map (.withdraw c.clusterId)) w) =
      (requestsIn c w).filter (remains c (Chore.after (names.map (.withdraw c.clusterId)) w)) := by
  have hfound := Chore.at?_withdrawals c.clusterId names w c.clusterId
  generalize Chore.after (names.map (.withdraw c.clusterId)) w = w' at hfound ⊢
  have hentries : (Table.row w'.drains c.clusterId).entries =
      (Table.row w.drains c.clusterId).entries.filter
        fun x => (Table.at? w'.drains c.clusterId x.1).isSome := by
    refine Dict.entries_eq_filter (fun key => (Table.at? w'.drains c.clusterId key).isSome)
      fun key d => ?_
    show Table.at? w'.drains c.clusterId key = some d ↔
        Table.at? w.drains c.clusterId key = some d ∧ _
    constructor
    · intro hd
      exact ⟨((hfound key d).1 hd).1, by rw [hd]; rfl⟩
    · rintro ⟨hd, hsome⟩
      obtain ⟨d', hd'⟩ := Option.isSome_iff_exists.1 hsome
      have hsame := ((hfound key d').1 hd').1
      rw [hd] at hsame
      rw [hd', hsame]
  have hvalues : (Table.row w'.drains c.clusterId).values =
      (Table.row w.drains c.clusterId).values.filter (remains c w') := by
    unfold Dict.values
    rw [hentries, List.filter_map]
    refine congrArg (List.map Prod.snd) (List.filter_congr fun x hx => ?_)
    have hown : x.2.metadata.name.getD "" = x.1 := hw.drains (Dict.mem_entries.1 hx)
    simp only [Function.comp_apply, remains, hown]
  unfold requestsIn
  rw [hvalues, List.filter_filter, List.filter_filter]
  exact List.filter_congr fun d _ => Bool.and_comm _ _

/-- The first deletions are those of names. -/
theorem take_withdrawals (c : AzureConfig) (requests : List DrainerConfig) (k : Nat) :
    (requests.map (withdrawal c)).take k =
      ((requests.take k).map fun d => d.metadata.anyName).map (.withdraw c.clusterId) := by
  rw [← List.map_take, List.map_map]
  rfl

/-- The deletion of a drain request that does not remain is over. -/
theorem over_of_not_remains {d : DrainerConfig} (hw : w.Keyed) (k : Nat) (hd : d ∈ requestsIn c w)
    (hgone : remains c (Chore.after (((requestsIn c w).map (withdrawal c)).take k) w) d = false) :
    (withdrawal c d).deed.over (Chore.after (((requestsIn c w).map (withdrawal c)).take k) w) =
    true := by
  rw [take_withdrawals] at hgone ⊢
  generalize hnames : ((requestsIn c w).take k).map (fun d => d.metadata.anyName) = names at hgone ⊢
  have hnone : Table.at? (Chore.after (names.map (.withdraw c.clusterId)) w).drains c.clusterId
      (d.metadata.name.getD "") = none :=
    Option.not_isSome_iff_eq_none.1 (by simpa [remains] using hgone)
  -- The request was deleted by its key, so this is what it is called when it is deleted.
  have hname : d.metadata.anyName = d.metadata.name.getD "" := by
    cases hown : d.metadata.name with
    | some name => simp [Metadata.anyName, hown]
    | none =>
      have hfound : Table.at? w.drains c.clusterId "" = some d := by
        have hstored := mem_requestsIn hw hd
        rwa [hown] at hstored
      have hmem : "" ∈ names := by
        rw [hown] at hnone
        refine Classical.byContradiction fun hnot => ?_
        have hstays := (Chore.at?_withdrawals c.clusterId names w c.clusterId "" d).2
          ⟨hfound, fun h => hnot h.2⟩
        rw [Option.getD_none, hstays] at hnone
        cases hnone
      rw [← hnames] at hmem
      obtain ⟨d', hd', hempty⟩ := List.mem_map.1 hmem
      have hkey : d'.metadata.name.getD "" = "" := by
        cases hown' : d'.metadata.name with
        | some name => simpa [Metadata.anyName, hown'] using hempty
        | none => rfl
      have hsame := mem_requestsIn hw (List.mem_of_mem_take hd')
      rw [hkey, hfound] at hsame
      rw [Option.some.inj hsame]
      exact hempty
  show (Table.at? _ c.clusterId d.metadata.anyName).isNone = true
  rw [hname, hnone]
  rfl

/-- A pass over the drain requests that begins anew finds those that were not deleted. -/
theorem resumable_lookForRequests (c : AzureConfig) :
    Resumable (lookForRequests c) fun w => w.Calm ∧ w.Keyed where
  asks := by
    refine .bind (.call rfl) fun requests => ?_
    split <;> trivial
  still w := by rw [run_lookForRequests]
  again := by
    rintro w l k ⟨-, hw⟩ hl
    obtain ⟨hfinished, rfl⟩ := found_lookForRequests hl
    have hlasting := Chore.lasting_withdrawals c.clusterId (fun d => d.metadata.anyName)
      (requestsIn c w)
    obtain ⟨hafter, hdeeds⟩ := hlasting.resume (w := w) _ k fun d hd hgone =>
      over_of_not_remains hw k hd hgone
    refine ⟨_, ?_, hafter, hdeeds⟩
    have hleft : requestsIn c (Chore.after (((requestsIn c w).map (withdrawal c)).take k) w) =
        (requestsIn c w).filter
        (remains c (Chore.after (((requestsIn c w).map (withdrawal c)).take k) w)) := by
      rw [take_withdrawals]
      exact requestsIn_after hw _
    have hall : ((requestsIn c w).filter
        (remains c (Chore.after (((requestsIn c w).map (withdrawal c)).take k) w))).all
        DrainerConfig.finished = true :=
      List.all_eq_true.2 fun d hd => List.all_eq_true.1 hfinished d (List.mem_filter.1 hd).1
    rw [run_lookForRequests, hleft, hall]
    rfl
  nodup := by
    intro w l _ hl
    obtain ⟨-, rfl⟩ := found_lookForRequests hl
    exact (Chore.lasting_withdrawals c.clusterId (fun d => d.metadata.anyName)
      (requestsIn c w)).nodup_deeds w

end Masters

end TenantFleet
