/-
# The gateway is taken apart

Each pass takes the next step only: it deletes the connections that lead to the gateway, or the
gateway, or its public address. In a world where nothing fails three passes are enough, whatever
connections there were, and no connection of another gateway is touched; a later pass finds nothing
to delete.

* `leads`, `dismantle`, `togo` : the connections of the gateway, the step of a pass, and how many
  are left;
* `succeeds_removeGateway`, `succeeds_ensure` : a pass takes this step, and deletes nothing when
  none is left;
* `Underway` : what holds after a number of passes;
* `Linked`, `Dismantled` : where the passes begin, and what they come to;
* `dismantles_in_order` : the safety of every pass and the end that the passes come to.
-/
import Mathlib.Logic.Function.Iterate
import TenantFleet.Proofs.Peering.Order
import TenantFleet.Proofs.World.Unlogged
import TenantFleet.Proofs.Data.Dict

namespace TenantFleet.Peering

open Program

variable {settings : PassSettings} {c : AzureConfig} {s s₀ : Subscription} {w w₀ : World} {n : Nat}
  {key tenantId planeId : String}

/-! ## The steps -/

/-- The name under which a connection is deleted. -/
def nameOf (n : GatewayConnection) : String := n.name.getD ""

/-- Whether a connection leads to the gateway of a cluster. -/
def leads (c : AzureConfig) (s : Subscription) (n : GatewayConnection) : Bool :=
  match s.gateways.get? (Name.vpnGateway c.clusterId) with
  | some gateway => n.references (gateway.id.getD "")
  | none => false

/-- The connections that lead to the gateway of a cluster. -/
def attached (c : AzureConfig) (s : Subscription) : List GatewayConnection :=
  s.connections.values.filter (leads c s)

/-- A subscription after connections were deleted. -/
def unlinked (s : Subscription) (names : List String) : Subscription :=
  { s with connections := names.foldl Dict.erase s.connections }

/-- A subscription after the next step of taking the gateway of a cluster apart. -/
def dismantle (c : AzureConfig) (s : Subscription) : Subscription :=
  match s.gateways.get? (Name.vpnGateway c.clusterId) with
  | none => { s with publicIps := s.publicIps.erase (Name.vpnGatewayPublicIp c.clusterId) }
  | some _ =>
    match attached c s with
    | [] => { s with gateways := s.gateways.erase (Name.vpnGateway c.clusterId) }
    | l => unlinked s (l.map nameOf)

/-- The step deletes the address of a gateway that has gone, or a gateway without connections, or
the connections of the gateway. -/
theorem dismantle_cases (c : AzureConfig) (s : Subscription) :
    (s.gateways.get? (Name.vpnGateway c.clusterId) = none ∧
      dismantle c s =
        { s with publicIps := s.publicIps.erase (Name.vpnGatewayPublicIp c.clusterId) }) ∨
    (attached c s = [] ∧
      dismantle c s = { s with gateways := s.gateways.erase (Name.vpnGateway c.clusterId) }) ∨
    (s.gateways.get? (Name.vpnGateway c.clusterId) ≠ none ∧
      dismantle c s = unlinked s ((attached c s).map nameOf)) := by
  unfold dismantle
  cases hgateway : s.gateways.get? (Name.vpnGateway c.clusterId) with
  | none => exact Or.inl ⟨rfl, rfl⟩
  | some gateway =>
    cases hattached : attached c s with
    | nil => exact Or.inr (Or.inl ⟨rfl, rfl⟩)
    | cons n l => exact Or.inr (Or.inr ⟨by simp, rfl⟩)

/-- The step is the same whatever peerings there are and whatever is on record. -/
theorem dismantle_with (c : AzureConfig) (s : Subscription) (peerings : Table Peering)
    (log : List String) :
    dismantle c { s with peerings := peerings, log := log } =
      { dismantle c s with peerings := peerings, log := log } := by
  have hattached : attached c { s with peerings := peerings, log := log } = attached c s := rfl
  unfold dismantle
  rw [hattached]
  cases hgateway : s.gateways.get? (Name.vpnGateway c.clusterId) with
  | none => rfl
  | some gateway => cases attached c s <;> rfl

/-- The step touches no network. -/
theorem networks_dismantle (c : AzureConfig) (s : Subscription) :
    (dismantle c s).networks = s.networks := by
  unfold dismantle
  cases s.gateways.get? (Name.vpnGateway c.clusterId) with
  | none => rfl
  | some gateway => cases attached c s <;> rfl

/-- How many steps are left at most: one for the connections, one for the gateway, one for its
address. -/
def togo (c : AzureConfig) (s : Subscription) : Nat :=
  match s.gateways.get? (Name.vpnGateway c.clusterId) with
  | none => if s.publicIps.contains (Name.vpnGatewayPublicIp c.clusterId) then 1 else 0
  | some _ => if (attached c s).isEmpty then 2 else 3

/-- Whether connections are stored under their names. -/
def Stored (s : Subscription) : Prop := ∀ key n, s.connections.get? key = some n → nameOf n = key

/-- The connections that lead to the gateway are deleted, and no others. -/
theorem get?_erase_attached (hstored : Stored s) (key : String) :
    (unlinked s ((attached c s).map nameOf)).connections.get? key =
      (s.connections.get? key).filter fun n => !leads c s n := by
  rw [unlinked, Dict.get?_foldl_erase]
  cases hkey : s.connections.get? key with
  | none => simp
  | some n =>
    have hiff : key ∈ (attached c s).map nameOf ↔ leads c s n = true := by
      rw [List.mem_map]
      constructor
      · rintro ⟨m, hm, hname⟩
        obtain ⟨hlisted, hleads⟩ := List.mem_filter.1 hm
        obtain ⟨key', hkey'⟩ := Dict.mem_values.1 hlisted
        have hsame : key' = key := (hstored key' m hkey').symm.trans hname
        rw [hsame, hkey] at hkey'
        cases hkey'
        exact hleads
      · intro hleads
        exact ⟨n, List.mem_filter.2 ⟨Dict.mem_values.2 ⟨key, hkey⟩, hleads⟩, hstored key n hkey⟩
    by_cases hleads : leads c s n = true
    · rw [if_pos (hiff.2 hleads), Option.filter_some_neg (by simp [hleads])]
    · rw [if_neg (mt hiff.1 hleads), Option.filter_some_pos (by simpa using hleads)]

/-- Each step brings the end nearer. -/
theorem togo_dismantle (hstored : Stored s) : togo c (dismantle c s) ≤ togo c s - 1 := by
  unfold dismantle
  cases hgateway : s.gateways.get? (Name.vpnGateway c.clusterId) with
  | none => simp [togo, hgateway, Dict.contains]
  | some gateway =>
    cases hattached : attached c s with
    | nil =>
      have hbefore : togo c s = 2 := by simp [togo, hgateway, hattached]
      rw [hbefore]
      simp only [togo, Dict.get?_erase_self]
      split <;> decide
    | cons n l =>
      have hbefore : togo c s = 3 := by simp [togo, hgateway, hattached]
      rw [hbefore]
      have hnone : attached c (unlinked s ((n :: l).map nameOf)) = [] := by
        refine List.filter_eq_nil_iff.2 fun m hm => ?_
        obtain ⟨key, hkey⟩ := Dict.mem_values.1 hm
        rw [← hattached, get?_erase_attached hstored] at hkey
        have hleads : leads c s m = false := by
          simpa using (Option.filter_eq_some_iff.1 hkey).2
        -- The gateway is still the same.
        show ¬ leads c s m = true
        rw [hleads]
        exact Bool.false_ne_true
      have hstays : (unlinked s ((n :: l).map nameOf)).gateways.get? (Name.vpnGateway c.clusterId) =
          some gateway := hgateway
      simp only [togo, hstays, hnone]
      decide

/-! ## A pass -/

/-- A world after the peerings were written. -/
def peered (settings : PassSettings) (c : AzureConfig) (tenantId planeId : String)
    (w : World) : World :=
  { w with
    cluster := { w.cluster with
      peerings := Table.put w.cluster.peerings (Name.virtualNetwork c.clusterId)
        settings.installation (toRemote settings.installation planeId) }
    controlPlane := { w.controlPlane with
      peerings := Table.put w.controlPlane.peerings settings.installation c.clusterId
        (toRemote c.clusterId tenantId) } }

/-- A world after a step. -/
def stepped (c : AzureConfig) (w : World) : World := { w with cluster := dismantle c w.cluster }

/-- Whether a call deletes something only when a step is left. -/
def Due (c : AzureConfig) (s : Subscription) (call : Call) : Prop := call.deletes = true →
    togo c s ≠ 0

/-- A request that deletes nothing may be made at any time. -/
theorem due_of_not_deletes {call : Call} (h : call.deletes = false) : Due c s call := by
  intro hdeletes
  rw [h] at hdeletes
  cases hdeletes

/-- Connections are deleted one after the other. -/
theorem succeeds_removeConnections (l : List GatewayConnection) (hdue : togo c s ≠ 0) (w : World) :
    Succeeds World.plain (Due c s)
      (fun _ w' => w' = { w with cluster := unlinked w.cluster (l.map nameOf) })
      (forEach l (removeConnection c.group)) w := by
  induction l generalizing w with
  | nil => rfl
  | cons n l ih => exact ⟨fun _ => hdue, ih { w with cluster := unlinked w.cluster [nameOf n] }⟩

/-- The address of a gateway that has gone is deleted if it is there. -/
theorem succeeds_removeAddress
    (hgateway : w.cluster.gateways.get? (Name.vpnGateway c.clusterId) = none) :
    Succeeds World.plain (Due c w.cluster) (fun _ w' => w' = stepped c w)
      (removeAddress c.group c.clusterId) w := by
  have hstep : stepped c w = { w with cluster := { w.cluster with
      publicIps := w.cluster.publicIps.erase (Name.vpnGatewayPublicIp c.clusterId) } } := by
    simp only [stepped, dismantle, hgateway]
  rw [hstep]
  have hread : World.plain.answer (.cloud c.group.account c.group.name
      (.getPublicIp (Name.vpnGatewayPublicIp c.clusterId))) w =
        (Subscription.orMissing (w.cluster.publicIps.get? (Name.vpnGatewayPublicIp c.clusterId))
          ("public ip " ++ Name.vpnGatewayPublicIp c.clusterId), w) := rfl
  refine ⟨due_of_not_deletes rfl, ?_⟩
  rw [hread]
  cases haddress : w.cluster.publicIps.get? (Name.vpnGatewayPublicIp c.clusterId) with
  | none =>
    rw [Dict.erase_of_missing haddress]
    rfl
  | some address =>
    have hdue : togo c w.cluster ≠ 0 := by
      simp [togo, hgateway, Dict.contains, haddress]
    exact ⟨fun _ => hdue, rfl⟩

/-- A gateway that is not on its way out is taken apart by one step. -/
theorem succeeds_removeGateway
    (hstays : ∀ gateway, w.cluster.gateways.get? (Name.vpnGateway c.clusterId) = some gateway →
      gateway.provisioningState ≠ some provisioningDeleting) :
    Succeeds World.plain (Due c w.cluster) (fun _ w' => w' = stepped c w)
      (removeGateway c.group c.clusterId) w := by
  have hread : World.plain.answer (.cloud c.group.account c.group.name
      (.getGateway (Name.vpnGateway c.clusterId))) w =
        (Subscription.orMissing (w.cluster.gateways.get? (Name.vpnGateway c.clusterId))
          ("vpn gateway " ++ Name.vpnGateway c.clusterId), w) := rfl
  refine ⟨due_of_not_deletes rfl, ?_⟩
  rw [hread]
  cases hgateway : w.cluster.gateways.get? (Name.vpnGateway c.clusterId) with
  | none => exact succeeds_removeAddress hgateway
  | some gateway =>
    have hleads : leads c w.cluster = fun n => n.references (gateway.id.getD "") := by
      funext n
      simp only [leads, hgateway]
    have hdue : togo c w.cluster ≠ 0 := by
      simp only [togo, hgateway]
      split <;> decide
    have hlist : World.plain.answer (.cloud c.group.account c.group.name .listConnections) w =
        (.ok w.cluster.connections.values, w) := rfl
    simp only [Subscription.orMissing]
    show Succeeds World.plain _ _ (ite _ _ _) w
    rw [if_neg (hstays gateway hgateway)]
    refine ⟨due_of_not_deletes rfl, ?_⟩
    rw [hlist]
    have hfilter :
        w.cluster.connections.values.filter (fun n => n.references (gateway.id.getD "")) =
        attached c w.cluster := by
      rw [← hleads]
      rfl
    show Succeeds World.plain _ _
      (match w.cluster.connections.values.filter _ with | [] => _ | l => _) w
    rw [hfilter]
    cases hattached : attached c w.cluster with
    | nil =>
      have hstep : stepped c w = { w with cluster := { w.cluster with
          gateways := w.cluster.gateways.erase (Name.vpnGateway c.clusterId) } } := by
        simp only [stepped, dismantle, hgateway, hattached]
      rw [hstep]
      exact ⟨fun _ => hdue, rfl⟩
    | cons n l =>
      have hstep :
          stepped c w = { w with cluster := unlinked w.cluster ((n :: l).map nameOf) } := by
        simp only [stepped, dismantle, hgateway, hattached]
      rw [hstep]
      exact succeeds_removeConnections (n :: l) hdue w

/-- Whether both networks are there and have the given IDs. -/
structure Connected (settings : PassSettings) (c : AzureConfig) (tenantId planeId : String)
    (w : World) : Prop where
  tenant : ∃ network, w.cluster.networks.get? (Name.virtualNetwork c.clusterId) = some network ∧
    network.id = some tenantId
  plane : ∃ network, w.controlPlane.networks.get? settings.installation = some network ∧
    network.id = some planeId

/-- A pass writes both peerings and takes the next step. -/
theorem succeeds_ensure (hw : Connected settings c tenantId planeId w)
    (hstays : ∀ gateway, w.cluster.gateways.get? (Name.vpnGateway c.clusterId) = some gateway →
      gateway.provisioningState ≠ some provisioningDeleting) :
    Succeeds World.plain (Due c w.cluster)
      (fun _ w' => w' = stepped c (peered settings c tenantId planeId w))
      (ensure settings c) w := by
  obtain ⟨tenant, htenant, htenantId⟩ := hw.tenant
  obtain ⟨plane, hplane, hplaneId⟩ := hw.plane
  have hread : World.plain.answer (.cloud c.group.account c.group.name
      (.getNetwork (Name.virtualNetwork c.clusterId))) w =
        (Subscription.orMissing (w.cluster.networks.get? (Name.virtualNetwork c.clusterId))
          ("vnet " ++ Name.virtualNetwork c.clusterId), w) := rfl
  have hread' : World.plain.answer (.cloud .controlPlane settings.installation
      (.getNetwork settings.installation)) w =
        (Subscription.orMissing (w.controlPlane.networks.get? settings.installation)
          ("vnet " ++ settings.installation), w) := rfl
  refine ⟨due_of_not_deletes rfl, ?_⟩
  rw [hread, htenant]
  refine ⟨due_of_not_deletes rfl, ?_⟩
  rw [hread', hplane]
  -- Both networks have an ID, so the pass goes on to connect them.
  obtain ⟨id, name, location⟩ := tenant
  obtain rfl : id = some tenantId := htenantId
  obtain ⟨id', name', location'⟩ := plane
  obtain rfl : id' = some planeId := hplaneId
  refine ⟨due_of_not_deletes rfl, due_of_not_deletes rfl, ?_⟩
  exact succeeds_removeGateway (w := peered settings c tenantId planeId w) hstays

/-! ## One pass after the other -/

/-- The world after a pass. -/
def afterPass (settings : PassSettings) (c : AzureConfig) (w : World) : World :=
  (run World.handler (ensure settings c) w).2

/-- The world after a number of passes. -/
def afterPasses (settings : PassSettings) (c : AzureConfig) (n : Nat) (w : World) : World :=
  (afterPass settings c)^[n] w

theorem afterPasses_succ (n : Nat) (w : World) :
    afterPasses settings c (n + 1) w = afterPass settings c (afterPasses settings c n w) :=
  Function.iterate_succ_apply' _ _ _

/-- Whether each network has the peering to the other one. -/
structure InPlace (settings : PassSettings) (c : AzureConfig) (tenantId planeId : String)
    (w : World) : Prop where
  tenant : Table.at? w.cluster.peerings (Name.virtualNetwork c.clusterId) settings.installation =
    some (toRemote settings.installation planeId)
  plane : Table.at? w.controlPlane.peerings settings.installation c.clusterId =
    some (toRemote c.clusterId tenantId)

/-- Whether the connections that led to the gateway of a world are gone, and all others are as they
were. -/
def Unlinked (c : AzureConfig) (w₀ w : World) : Prop :=
  ∀ key, w.cluster.connections.get? key =
    (w₀.cluster.connections.get? key).filter fun n => !leads c w₀.cluster n

/-- What holds after a number of passes: the gateway is as it was, or gone with its connections, and
at most three steps were left at the beginning. -/
structure Underway (settings : PassSettings) (c : AzureConfig) (tenantId planeId : String)
    (w₀ : World) (n : Nat) (w : World) : Prop where
  calm : w.Calm
  connected : Connected settings c tenantId planeId w
  connections : w.cluster.connections = w₀.cluster.connections ∨ Unlinked c w₀ w
  gateway : w.cluster.gateways.get? (Name.vpnGateway c.clusterId) =
      w₀.cluster.gateways.get? (Name.vpnGateway c.clusterId) ∨
    w.cluster.gateways.get? (Name.vpnGateway c.clusterId) = none ∧ Unlinked c w₀ w
  left : togo c w.cluster ≤ 3 - n
  peered : 0 < n → InPlace settings c tenantId planeId w

/-- The connections are still stored under their names. -/
theorem Underway.stored (hw : Underway settings c tenantId planeId w₀ n w)
    (hstored : Stored w₀.cluster) :
    Stored w.cluster := by
  intro key n hkey
  rcases hw.connections with hsame | hunlinked
  · rw [hsame] at hkey
    exact hstored key n hkey
  · rw [hunlinked key] at hkey
    exact hstored key n (Option.filter_eq_some_iff.1 hkey).1

/-- Connections among which none leads to the gateway are all that is to be left. -/
theorem Underway.unlinked_of_attached (hw : Underway settings c tenantId planeId w₀ n w)
    (hnone : ∀ key m, w.cluster.connections.get? key = some m → leads c w₀.cluster m = false) :
    Unlinked c w₀ w := by
  rcases hw.connections with hsame | hunlinked
  · intro key
    rw [← hsame]
    cases hkey : w.cluster.connections.get? key with
    | none => rfl
    | some m => rw [Option.filter_some_pos (by rw [hnone key m hkey]; rfl)]
  · exact hunlinked

/-- The gateways and the connections after a step. -/
theorem Underway.dismantled (hw : Underway settings c tenantId planeId w₀ n w)
    (hstored : Stored w₀.cluster)
    {w' : World} (hgateways : w'.cluster.gateways = (dismantle c w.cluster).gateways)
    (hconnections : w'.cluster.connections = (dismantle c w.cluster).connections) :
    (w'.cluster.connections = w₀.cluster.connections ∨ Unlinked c w₀ w') ∧
      (w'.cluster.gateways.get? (Name.vpnGateway c.clusterId) =
          w₀.cluster.gateways.get? (Name.vpnGateway c.clusterId) ∨
        w'.cluster.gateways.get? (Name.vpnGateway c.clusterId) = none ∧ Unlinked c w₀ w') := by
  have hsame : w'.cluster.connections = w.cluster.connections → Unlinked c w₀ w →
      Unlinked c w₀ w' := by
    intro heq h key
    rw [heq]
    exact h key
  -- As long as there is a gateway it is the one of the beginning.
  have hleads : w.cluster.gateways.get? (Name.vpnGateway c.clusterId) ≠ none →
      leads c w.cluster = leads c w₀.cluster := by
    intro hthere
    rcases hw.gateway with heq | ⟨hgone, -⟩
    · funext m
      unfold leads
      rw [heq]
    · exact absurd hgone hthere
  rcases dismantle_cases c w.cluster with ⟨hgone, hstep⟩ | ⟨hfree, hstep⟩ | ⟨hthere, hstep⟩
  · rw [hstep] at hgateways hconnections
    rw [hgateways, hconnections]
    exact ⟨hw.connections.imp id (hsame hconnections),
      hw.gateway.imp id (And.imp id (hsame hconnections))⟩
  · rw [hstep] at hgateways hconnections
    rw [hgateways, hconnections]
    refine ⟨hw.connections.imp id (hsame hconnections), Or.inr ⟨Dict.get?_erase_self _ _, ?_⟩⟩
    refine hsame hconnections ?_
    by_cases hgone : w.cluster.gateways.get? (Name.vpnGateway c.clusterId) = none
    · rcases hw.gateway with heq | ⟨-, hunlinked⟩
      · refine hw.unlinked_of_attached fun key m _ => ?_
        unfold leads
        rw [← heq, hgone]
      · exact hunlinked
    · refine hw.unlinked_of_attached fun key m hkey => ?_
      rw [← hleads hgone]
      have hmem : m ∈ w.cluster.connections.values := Dict.mem_values.2 ⟨key, hkey⟩
      exact Bool.not_eq_true _ ▸ List.filter_eq_nil_iff.1 hfree m hmem
  · rw [hstep] at hgateways hconnections
    have hunlinked : Unlinked c w₀ w' := by
      intro key
      rw [hconnections, get?_erase_attached (hw.stored hstored), hleads hthere]
      rcases hw.connections with heq | h
      · rw [heq]
      · rw [h key, Option.filter_filter]
        simp
    refine ⟨Or.inr hunlinked, ?_⟩
    rw [hgateways]
    rcases hw.gateway with heq | ⟨hgone, -⟩
    · exact Or.inl heq
    · exact absurd hgone hthere

/-- A world after a pass is one step further. -/
theorem Underway.next (hw : Underway settings c tenantId planeId w₀ n w)
    (hstored : Stored w₀.cluster) {w' : World} (hcalm : w'.Calm)
    (hw' : w'.unlogged = stepped c (Peering.peered settings c tenantId planeId w.unlogged)) :
    Underway settings c tenantId planeId w₀ (n + 1) w' := by
  have hcluster : w'.cluster.unlogged = { dismantle c w.cluster with
      peerings := Table.put w.cluster.peerings (Name.virtualNetwork c.clusterId)
        settings.installation (toRemote settings.installation planeId), log := [] } :=
    (congrArg World.cluster hw').trans (dismantle_with c w.cluster _ _)
  have hplane : w'.controlPlane.unlogged = { w.controlPlane.unlogged with
      peerings := Table.put w.controlPlane.peerings settings.installation c.clusterId
        (toRemote c.clusterId tenantId) } :=
    congrArg World.controlPlane hw'
  have hgateways : w'.cluster.gateways = (dismantle c w.cluster).gateways := by
    show w'.cluster.unlogged.gateways = _
    rw [hcluster]
  have hconnections : w'.cluster.connections = (dismantle c w.cluster).connections := by
    show w'.cluster.unlogged.connections = _
    rw [hcluster]
  have haddresses : w'.cluster.publicIps = (dismantle c w.cluster).publicIps := by
    show w'.cluster.unlogged.publicIps = _
    rw [hcluster]
  have htogo : togo c w'.cluster = togo c (dismantle c w.cluster) := by
    unfold togo attached leads
    rw [hgateways, hconnections, haddresses]
  obtain ⟨hleft, hgone⟩ := hw.dismantled hstored hgateways hconnections
  refine ⟨hcalm, ⟨?_, ?_⟩, hleft, hgone, ?_, fun _ => ⟨?_, ?_⟩⟩
  · have hnetworks : w'.cluster.networks = w.cluster.networks :=
      (congrArg Subscription.networks hcluster).trans (networks_dismantle c w.cluster)
    rw [hnetworks]
    exact hw.connected.tenant
  · have hnetworks : w'.controlPlane.networks = w.controlPlane.networks := by
      show w'.controlPlane.unlogged.networks = _
      rw [hplane]
      rfl
    rw [hnetworks]
    exact hw.connected.plane
  · have hstep := togo_dismantle (c := c) (hw.stored hstored)
    have hbefore := hw.left
    rw [htogo]
    omega
  · have hpeerings := congrArg Subscription.peerings hcluster
    exact (congrArg (Table.at? · _ _) hpeerings).trans (Table.at?_put_self _ _ _ _)
  · have hpeerings := congrArg Subscription.peerings hplane
    exact (congrArg (Table.at? · _ _) hpeerings).trans (Table.at?_put_self _ _ _ _)

/-! ## The end -/

/-- Whether the networks of a world where nothing fails can be peered, and its gateway, if there is
one, is not on its way out. -/
structure Linked (settings : PassSettings) (c : AzureConfig) (tenantId planeId : String)
    (w : World) : Prop where
  calm : w.Calm
  connected : Connected settings c tenantId planeId w
  stored : Stored w.cluster
  stays : ∀ gateway, w.cluster.gateways.get? (Name.vpnGateway c.clusterId) = some gateway →
    gateway.provisioningState ≠ some provisioningDeleting

/-- Whether the gateway of a world has gone with its address and its connections, and the networks
are peered; all other connections are as they were. -/
structure Dismantled (settings : PassSettings) (c : AzureConfig) (tenantId planeId : String)
    (w₀ w : World) : Prop where
  gateway : w.cluster.gateways.get? (Name.vpnGateway c.clusterId) = none
  address : w.cluster.publicIps.get? (Name.vpnGatewayPublicIp c.clusterId) = none
  connections : Unlinked c w₀ w
  peered : InPlace settings c tenantId planeId w

/-- The gateway is still not on its way out. -/
theorem Underway.stays (hw : Underway settings c tenantId planeId w₀ n w)
    (hlinked : Linked settings c tenantId planeId w₀) (gateway : Gateway)
    (hgateway : w.cluster.gateways.get? (Name.vpnGateway c.clusterId) = some gateway) :
    gateway.provisioningState ≠ some provisioningDeleting := by
  rcases hw.gateway with heq | ⟨hgone, -⟩
  · rw [heq] at hgateway
    exact hlinked.stays gateway hgateway
  · rw [hgone] at hgateway
    cases hgateway

/-- A pass ends well, deletes something only when a step is left, and takes it. -/
theorem Underway.pass (hw : Underway settings c tenantId planeId w₀ n w)
    (hlinked : Linked settings c tenantId planeId w₀) :
    (run World.handler (ensure settings c) w).1 = .ok () ∧
      (∀ call ∈ calls World.handler (ensure settings c) w, Due c w.cluster call) ∧
      Underway settings c tenantId planeId w₀ (n + 1) (afterPass settings c w) := by
  have hconnected : Connected settings c tenantId planeId w.unlogged :=
    ⟨hw.connected.tenant, hw.connected.plane⟩
  have hplain := succeeds_ensure hconnected (hw.stays hlinked)
  obtain ⟨_, hresult, ⟨hw', hcalm⟩, hcalls⟩ := (Succeeds.of_unlogged hw.calm hplain).run
  exact ⟨hresult, hcalls, hw.next hlinked.stored hcalm hw'⟩

/-- What holds after a number of passes. -/
theorem Linked.underway (hlinked : Linked settings c tenantId planeId w) (n : Nat) :
    Underway settings c tenantId planeId w n (afterPasses settings c n w) := by
  induction n with
  | zero =>
    have hleft : togo c w.cluster ≤ 3 := by
      unfold togo
      split
      · split <;> decide
      · split <;> decide
    exact ⟨hlinked.calm, hlinked.connected, Or.inl rfl, Or.inl rfl, hleft, fun h =>
      absurd h (Nat.lt_irrefl 0)⟩
  | succ n ih =>
    rw [afterPasses_succ]
    exact (ih.pass hlinked).2.2

/-- When no step is left the gateway is taken apart. -/
theorem Underway.ends (hw : Underway settings c tenantId planeId w₀ n w) (hn : 3 ≤ n) :
    togo c w.cluster = 0 ∧ Dismantled settings c tenantId planeId w₀ w := by
  have hleft : togo c w.cluster = 0 := by
    have := hw.left
    omega
  have hgone : w.cluster.gateways.get? (Name.vpnGateway c.clusterId) = none := by
    cases hgateway : w.cluster.gateways.get? (Name.vpnGateway c.clusterId) with
    | none => rfl
    | some gateway =>
      simp only [togo, hgateway] at hleft
      split at hleft <;> cases hleft
  have haddress : w.cluster.publicIps.get? (Name.vpnGatewayPublicIp c.clusterId) = none := by
    by_contra haddress
    have hthere : w.cluster.publicIps.contains (Name.vpnGatewayPublicIp c.clusterId) = true :=
      Option.isSome_iff_ne_none.2 haddress
    simp only [togo, hgone, hthere] at hleft
    cases hleft
  refine ⟨hleft, hgone, haddress, ?_, hw.peered (by omega)⟩
  rcases hw.gateway with heq | ⟨-, hunlinked⟩
  · -- There was no gateway from the beginning.
    refine hw.unlinked_of_attached fun key m _ => ?_
    unfold leads
    rw [← heq, hgone]
  · exact hunlinked

/-- Whatever the cloud answers, a pass deletes only what it has read to be in order: a connection of
the gateway that was read, a gateway without connections that is not on its way out, the address of
a gateway that is missing, and nothing before both networks are peered. When nothing fails, three
passes leave neither gateway nor address nor connection of the gateway, whatever there was, touch no
other connection, and later passes delete nothing. -/
theorem dismantles_in_order (settings : PassSettings) (c : AzureConfig) :
    (∀ before call, Issues (ensure settings c) before call → call.deletes = true →
      Peered settings c before ∧
        ∃ k, call = .cloud c.group.account c.group.name k ∧ Backed c.group c.clusterId before k) ∧
    ∀ tenantId planeId w, Linked settings c tenantId planeId w →
      (∀ n, (run World.handler (ensure settings c) (afterPasses settings c n w)).1 = .ok ()) ∧
      ∀ n, 3 ≤ n → Dismantled settings c tenantId planeId w (afterPasses settings c n w) ∧
        ∀ call ∈ calls World.handler (ensure settings c) (afterPasses settings c n w),
          call.deletes = false := by
  refine ⟨fun before call => issues_ensure, fun tenantId planeId w hlinked =>
    ⟨fun n => ?_, fun n hn => ?_⟩⟩
  · exact ((hlinked.underway n).pass hlinked).1
  · obtain ⟨hleft, hend⟩ := (hlinked.underway n).ends hn
    refine ⟨hend, fun call hcall => ?_⟩
    have hdue := ((hlinked.underway n).pass hlinked).2.1 call hcall
    rw [← Bool.not_eq_true]
    exact fun hdeletes => hdue hdeletes hleft

/-! ## A gateway with a connection -/

/-- The settings of an installation. -/
def hubSettings : PassSettings := ⟨"hub", ⟨1, 0, 0, [], []⟩, 30, 300⟩

/-- A cluster. -/
def spokeCluster : AzureConfig :=
  { metadata := {}
    clusterId := "c1"
    dnsZone := "c1.example.com"
    etcdDomain := "etcd.c1.example.com"
    location := "westeurope"
    masters := []
    secret := ⟨"secret", "default"⟩ }

/-- Two networks, a gateway with a connection that names it in capitals, its address, and a
connection of another gateway. -/
def spokeWorld : World :=
  { cluster :=
      { id := "sub-tenant"
        networks := Dict.empty.insert (Name.virtualNetwork "c1") { id := some "/networks/c1" }
        gateways := Dict.empty.insert (Name.vpnGateway "c1") { id := some "/gateways/c1" }
        connections := (Dict.empty.insert "ours" ⟨none, some "ours", some (some "/hub"),
          some (some "/GATEWAYS/C1")⟩).insert
          "others" ⟨none, some "others", some (some "/gateways/c2"), none⟩
        publicIps := Dict.empty.insert (Name.vpnGatewayPublicIp "c1") {} }
    controlPlane :=
      { id := "sub-control-plane"
        networks := Dict.empty.insert "hub" { id := some "/networks/hub" } }
    template := .null }

/-- The calls of the next pass after a number of passes, none of which fails. -/
def spokePass (n : Nat) : List Asked :=
  (advance World.handler 20 (ensure hubSettings spokeCluster)
    (afterPasses hubSettings spokeCluster n spokeWorld)).1

/-- What the next pass after a number of passes deletes. -/
def spokeDeletion : Nat → CloudCall
  | 0 => .deleteConnection "ours"
  | 1 => .deleteGateway (Name.vpnGateway "c1")
  | _ => .deletePublicIp (Name.vpnGatewayPublicIp "c1")

/-- Whether a call makes a request to the cloud. -/
def requests (k : CloudCall) : Call → Bool
  | .cloud _ _ k' => decide (k' = k)
  | _ => false

/-- Three passes take the gateway of this world apart, with its own connection only: first the
connection, then the gateway, then its address, each of them on the word of its own pass. -/
theorem dismantles_in_order_spoke :
    (∀ n < 3, ∃ before a after, spokePass n = before ++ a :: after ∧
      requests (spokeDeletion n) a.call = true ∧ Peered hubSettings spokeCluster before ∧
      Backed spokeCluster.group spokeCluster.clusterId before (spokeDeletion n)) ∧
    Linked hubSettings spokeCluster "/networks/c1" "/networks/hub" spokeWorld ∧
      Dismantled hubSettings spokeCluster "/networks/c1" "/networks/hub" spokeWorld
        (afterPasses hubSettings spokeCluster 3 spokeWorld) ∧
      (afterPasses hubSettings spokeCluster 3 spokeWorld).cluster.connections.keys =
        ["others"] := by
  have hstored : Stored spokeWorld.cluster := by
    intro key n hkey
    have hmem := Dict.mem_entries.2 hkey
    have hall : ∀ e ∈ spokeWorld.cluster.connections.entries, nameOf e.2 = e.1 := by decide +kernel
    exact hall _ hmem
  have hlinked : Linked hubSettings spokeCluster "/networks/c1" "/networks/hub" spokeWorld := by
    refine ⟨⟨rfl, rfl, rfl⟩, ⟨⟨_, Dict.get?_insert_self _ _ _, rfl⟩,
      ⟨_, Dict.get?_insert_self _ _ _, rfl⟩⟩, hstored, ?_⟩
    intro gateway hgateway
    have hthere : spokeWorld.cluster.gateways.get? (Name.vpnGateway spokeCluster.clusterId) =
        some { id := some "/gateways/c1" } := Dict.get?_insert_self _ _ _
    rw [hthere] at hgateway
    cases hgateway
    decide
  refine ⟨fun n hn => ?_, hlinked, ?_, by decide +kernel⟩
  · have hdeletes : ∀ n < 3, (spokePass n).any (fun a => requests (spokeDeletion n) a.call) = true ∧
        (spokeDeletion n).deletes = true := by decide +kernel
    obtain ⟨hmade, hdeletion⟩ := hdeletes n hn
    obtain ⟨⟨call, r⟩, ha, hcall⟩ := List.any_eq_true.1 hmade
    obtain ⟨before, after, hsplit⟩ := List.append_of_mem ha
    have hanswer : ∀ call w, World.handler.faulty.answers call w (World.handler.answer call w).1
        (World.handler.answer call w).2 := fun call w => .answered
    have hpath := path_advance hanswer rfl 20 (ensure hubSettings spokeCluster)
      (afterPasses hubSettings spokeCluster n spokeWorld)
    change Path _ _ _ (spokePass n) _ _ at hpath
    rw [hsplit] at hpath
    cases call with
    | cloud account group k =>
      obtain rfl : k = spokeDeletion n := of_decide_eq_true hcall
      obtain ⟨hpeered, k, heq, hbacked⟩ := (dismantles_in_order hubSettings spokeCluster).1 before _
        (hpath.issues_of_append before after) hdeletion
      cases heq
      exact ⟨before, _, after, hsplit, hcall, hpeered, hbacked⟩
    | _ => cases hcall
  · exact (((dismantles_in_order hubSettings spokeCluster).2 _ _ _ hlinked).2 3 (by decide)).1

end TenantFleet.Peering
