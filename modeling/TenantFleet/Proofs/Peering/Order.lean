/-
# What a pass must have read before it deletes

A pass that peers the networks takes the old gateway of the cluster apart: its connections, then the
gateway, then its public address. Each of these is deleted on the word of the same pass only,
whatever the cloud answers: the pass has found both networks and written both peerings, and has read
what makes the deletion safe.

* `Call.deletes` : that a call deletes something;
* `Answered` : that a request was made, and was answered so;
* `Peered`, `Backed` : what stands behind a deletion;
* `issues_removeGateway`, `issues_ensure` : a pass deletes nothing without it.
-/
import TenantFleet.Pass.Peering
import TenantFleet.Proofs.Program.Trace

namespace TenantFleet

/-! ## Deletions -/

/-- Whether a request deletes something. -/
def CloudCall.deletes : CloudCall → Bool
  | deleteInstances _ _ | deleteDisk _ | deleteSnapshot _ | deleteGateway _ | deleteConnection _
  | deletePublicIp _ => true
  | _ => false

/-- Whether a call deletes something. -/
def Call.deletes : Call → Bool
  | cloud _ _ k => k.deletes
  | tenant _ _ (.deleteNode _) | deleteDrain _ _ => true
  | _ => false

namespace Peering

open Program

variable {settings : PassSettings} {c : AzureConfig} {g : ResourceGroup} {clusterId : String}
  {before after trace : List Asked} {call : Call}

/-- Whether a request about a group was made, and was answered so. -/
def Answered (before : List Asked) (g : ResourceGroup) (k : CloudCall) (a : k.Answer) : Prop :=
  ⟨.cloud g.account g.name k, .ok a⟩ ∈ before

/-- The first request was answered as it was. -/
theorem Answered.here (g : ResourceGroup) (k : CloudCall) (a : k.Answer) (rest : List Asked) :
    Answered ([⟨.cloud g.account g.name k, .ok a⟩] ++ rest) g k a :=
  List.mem_cons_self

/-- A later request was answered as it was. -/
theorem Answered.later {k : CloudCall} {a : k.Answer} (h : Answered after g k a) (l : List Asked) :
    Answered (l ++ after) g k a :=
  List.mem_append_right l h

/-- The group of the network of the control plane. -/
def controlGroup (settings : PassSettings) : ResourceGroup := ⟨.controlPlane, settings.installation⟩

/-- Whether both networks were found with their IDs, and a peering to the other one was written for
each. -/
structure Peered (settings : PassSettings) (c : AzureConfig) (before : List Asked) : Prop where
  intro ::
  both : ∃ tenant plane tenantId planeId operation operation',
    (Answered before c.group (.getNetwork (Name.virtualNetwork c.clusterId)) tenant ∧
      tenant.id = some tenantId) ∧
    (Answered before (controlGroup settings) (.getNetwork settings.installation) plane ∧
      plane.id = some planeId) ∧
    Answered before c.group (.putPeering (Name.virtualNetwork c.clusterId) settings.installation
      (toRemote settings.installation planeId)) operation ∧
    Answered before (controlGroup settings) (.putPeering settings.installation c.clusterId
      (toRemote c.clusterId tenantId)) operation'

/-- What a deletion rests on: a connection leads to the gateway that was read, a gateway has no
connection left and is not on its way out, and an address has lost its gateway. -/
inductive Backed (g : ResourceGroup) (clusterId : String) (before : List Asked) : CloudCall → Prop
  /-- A listed connection has the ID of the gateway at one of its ends. -/
  | connection {gateway : Gateway} {listed : List GatewayConnection} {n : GatewayConnection}
    (read : Answered before g (.getGateway (Name.vpnGateway clusterId)) gateway)
    (list : Answered before g .listConnections listed) (mem : n ∈ listed)
    (refers : n.references (gateway.id.getD "") = true) :
    Backed g clusterId before (.deleteConnection (n.name.getD ""))
  /-- No listed connection has the ID of the gateway at its ends. -/
  | gateway {gateway : Gateway} {listed : List GatewayConnection}
    (read : Answered before g (.getGateway (Name.vpnGateway clusterId)) gateway)
    (stays : gateway.provisioningState ≠ some provisioningDeleting)
    (list : Answered before g .listConnections listed)
    (free : ∀ n ∈ listed, n.references (gateway.id.getD "") = false) :
    Backed g clusterId before (.deleteGateway (Name.vpnGateway clusterId))
  /-- The gateway was reported missing. -/
  | address {e : AzureError} (missing : e.isNotFound = true)
    (gone : ⟨.cloud g.account g.name (.getGateway (Name.vpnGateway clusterId)),
      .error e⟩ ∈ before) :
    Backed g clusterId before (.deletePublicIp (Name.vpnGatewayPublicIp clusterId))

/-- What stands behind a deletion still does when more was asked before it. -/
theorem Backed.mono {k : CloudCall} (h : Backed g clusterId after k)
    (hsub : ∀ a ∈ after, a ∈ before) :
    Backed g clusterId before k := by
  cases h with
  | connection read list mem refers => exact .connection (hsub _ read) (hsub _ list) mem refers
  | gateway read stays list free => exact .gateway (hsub _ read) stays (hsub _ list) free
  | address missing gone => exact .address missing (hsub _ gone)

/-! ## Taking the gateway apart -/

/-- The address is the only thing that is deleted when the gateway is gone. -/
theorem issues_removeAddress (h : Issues (removeAddress g clusterId) trace call)
    (hdeletes : call.deletes = true) :
    call = .cloud g.account g.name (.deletePublicIp (Name.vpnGatewayPublicIp clusterId)) := by
  rcases issues_bind.1 h with hfind | ⟨found, _, rest, -, -, hrest⟩
  · obtain ⟨-, rfl⟩ := issues_find?.1 hfind
    cases hdeletes
  · cases found with
    | none => exact absurd hrest not_issues_done
    | some address =>
      rcases issues_bind.1 hrest with hcall | ⟨_, _, _, -, -, hdone⟩
      · exact (issues_groupCall.1 hcall).2
      · exact absurd hdone not_issues_done

/-- A deletion rests on what was read about the gateway. -/
theorem issues_removeGateway (h : Issues (removeGateway g clusterId) trace call)
    (hdeletes : call.deletes = true) :
    ∃ k, call = .cloud g.account g.name k ∧ Backed g clusterId trace k := by
  rcases issues_bind.1 h with hfind | ⟨found, start, rest, rfl, hfound, hrest⟩
  · obtain ⟨-, rfl⟩ := issues_find?.1 hfind
    cases hdeletes
  · rcases yields_find?.1 hfound with ⟨gateway, rfl, rfl⟩ | ⟨e, hmissing, rfl, rfl⟩
    · -- The gateway was read.
      dsimp only at hrest
      split at hrest
      · exact absurd hrest not_issues_done
      · rename_i hstays
        rcases issues_bind.1 hrest with hlist | ⟨listed, middle, rest, rfl, hlisted, hapart⟩
        · obtain ⟨-, rfl⟩ := issues_groupCall.1 hlist
          cases hdeletes
        · obtain rfl := yields_groupCall.1 hlisted
          have hread := Answered.here g (.getGateway (Name.vpnGateway clusterId)) gateway
            ([⟨.cloud g.account g.name .listConnections, .ok listed⟩] ++ rest)
          have hlist := (Answered.here g .listConnections listed rest).later
            [⟨.cloud g.account g.name (.getGateway (Name.vpnGateway clusterId)), .ok gateway⟩]
          split at hapart
          · rename_i hnone
            rcases issues_bind.1 hapart with hcall | ⟨_, _, _, -, -, hdone⟩
            · have hfree : ∀ n ∈ listed, n.references (gateway.id.getD "") = false := fun n hn =>
                Bool.not_eq_true _ ▸ (List.filter_eq_nil_iff.1 hnone n hn)
              exact ⟨_, (issues_groupCall.1 hcall).2, .gateway hread hstays hlist hfree⟩
            · exact absurd hdone not_issues_done
          · obtain ⟨n, hn, own, hown⟩ := issues_forEach hapart
            obtain ⟨hn, hrefers⟩ := List.mem_filter.1 hn
            rcases issues_bind.1 hown with hcall | ⟨_, _, _, -, -, hdone⟩
            · exact ⟨_, (issues_groupCall.1 hcall).2, .connection hread hlist hn hrefers⟩
            · exact absurd hdone not_issues_done
    · -- It was reported missing.
      exact ⟨_, issues_removeAddress hrest hdeletes, .address hmissing List.mem_cons_self⟩

/-! ## The whole pass -/

/-- Networks whose IDs are known are peered before anything is deleted. -/
theorem issues_connect {tenantId planeId : String}
    (h : Issues (connect settings c tenantId planeId) trace call) (hdeletes : call.deletes = true) :
    (∃ operation operation',
      Answered trace c.group (.putPeering (Name.virtualNetwork c.clusterId) settings.installation
        (toRemote settings.installation planeId)) operation ∧
      Answered trace (controlGroup settings) (.putPeering settings.installation c.clusterId
        (toRemote c.clusterId tenantId)) operation') ∧
      ∃ k, call = .cloud c.group.account c.group.name k ∧ Backed c.group c.clusterId trace k := by
  rcases issues_bind.1 h with hput | ⟨operation, _, rest, rfl, hput, hrest⟩
  · obtain ⟨-, rfl⟩ := issues_groupCall.1 hput
    cases hdeletes
  · obtain rfl := yields_groupCall.1 hput
    rcases issues_bind.1 hrest with hput' | ⟨operation', _, rest, rfl, hput', hapart⟩
    · obtain ⟨-, rfl⟩ := issues_groupCall.1 hput'
      cases hdeletes
    · obtain rfl := yields_groupCall.1 hput'
      obtain ⟨k, hk, hbacked⟩ := issues_removeGateway hapart hdeletes
      refine ⟨⟨operation, operation', Answered.here _ _ _ _, ?_⟩, k, hk,
        hbacked.mono fun a ha => ?_⟩
      · exact (Answered.here (controlGroup settings) _ operation' rest).later [_]
      · exact List.mem_append_right _ (List.mem_append_right _ ha)

/-- A pass deletes something only after it has peered the networks, and on the word of the cloud. -/
theorem issues_ensure (h : Issues (ensure settings c) trace call) (hdeletes : call.deletes = true) :
    Peered settings c trace ∧
      ∃ k, call = .cloud c.group.account c.group.name k ∧ Backed c.group c.clusterId trace k := by
  rcases issues_bind.1 h with hfind | ⟨found, _, rest, rfl, hfound, htenant⟩
  · obtain ⟨-, rfl⟩ := issues_find?.1 hfind
    cases hdeletes
  · rcases yields_find?.1 hfound with ⟨tenant, rfl, rfl⟩ | ⟨_, _, rfl, rfl⟩
    · rcases issues_bind.1 htenant with hfind | ⟨found, _, rest, rfl, hfound', hplane⟩
      · obtain ⟨-, rfl⟩ := issues_find?.1 hfind
        cases hdeletes
      · rcases yields_find?.1 hfound' with ⟨plane, rfl, rfl⟩ | ⟨_, _, rfl, rfl⟩
        · dsimp only at hplane
          split at hplane
          · rename_i tenantId planeId htenantId hplaneId
            obtain ⟨⟨operation, operation', hput, hput'⟩, k, hk, hbacked⟩ :=
              issues_connect hplane hdeletes
            refine ⟨⟨tenant, plane, tenantId, planeId, operation, operation',
              ⟨Answered.here _ _ _ _, htenantId⟩, ⟨?_, hplaneId⟩, (hput.later _).later _,
                (hput'.later _).later _⟩, k, hk, hbacked.mono fun a ha => ?_⟩
            · exact (Answered.here (controlGroup settings) _ plane rest).later [_]
            · exact List.mem_append_right _ (List.mem_append_right _ ha)
          · exact absurd hplane not_issues_done
        · exact absurd hplane not_issues_done
    · exact absurd htenant not_issues_done

end Peering

end TenantFleet
