/-
# Starting members one after the other

A pass tells one master after the other to start its member. The environment that a master is told
names the members that were started so far, so the first member starts a cluster and the others join
it; and before a master is told, the address record of its member was written and its bundle found.

* `Prepared` : the calls that come right before a master is told;
* `Boots` : which master is told to start which member, and what it is told;
* `InTurn` : that the masters of a trace are told in turn;
* `Stops` : the calls after which nothing follows;
* `members_started_in_turn` : how a pass starts members.
-/
import TenantFleet.Proofs.Etcd.Unit
import TenantFleet.Proofs.Program.Halting

namespace TenantFleet.Etcd

open Program

variable {c : AzureConfig} {subscription : String} {trace before after : List Asked} {call : Call}
  {v : Instance} {inst member address : String} {entries earlier members members' : List String}
  {l listed : List Instance} {tls : Tls} {i : Nat}

/-! ## What a master is told -/

/-- The address of a member for the other members. -/
def peerUrl (c : AzureConfig) (member : String) : String := "https://" ++ member ++ "." ++
    c.dnsZone ++ ":2380"

/-- The environment of a member, when the given members were started so far, this one included. -/
def bootLines (c : AzureConfig) (members : List String) (member state : String)
    (tls : Tls) : List String := [
  "ETCD_NAME=" ++ member,
  "ETCD_PEER_URL=" ++ peerUrl c member,
  "ETCD_INITIAL_CLUSTER=" ++ ",".intercalate (members.map fun m => m ++ "=" ++ peerUrl c m),
  "ETCD_INITIAL_CLUSTER_STATE=" ++ state,
  "ETCD_PEER_CA_PATH=/var/lib/etcd/ssl/peer-ca.pem",
  "ETCD_PEER_CERT_PATH=/var/lib/etcd/ssl/peer-crt.pem",
  "ETCD_PEER_KEY_PATH=/var/lib/etcd/ssl/peer-key.pem",
  "ETCD_PEER_CA=" ++ Base64.encode tls.ca,
  "ETCD_PEER_CRT=" ++ Base64.encode tls.crt,
  "ETCD_PEER_KEY=" ++ Base64.encode tls.key]

/-- The command that writes an environment to its file. -/
def bootCommand (lines : List String) : RunCommand :=
  { commandId := "RunShellScript"
    script := ["echo -e '" ++ "\\n".intercalate lines ++ "' | sudo tee /etc/etcd-bootstrap-env"] }

theorem memberUrl_eq (c : AzureConfig) (member : String) :
    memberUrl c member = peerUrl c member := by
  have hchannel : ":" ++ toString peerChannel = ":2380" := by decide
  unfold memberUrl peerUrl
  rw [String.append_assoc, hchannel]

/-- What the command says, when some members were started before. -/
theorem writeEnvironment_eq (c : AzureConfig) (earlier : List String) (member : String)
    (tls : Tls) :
    writeEnvironment (environment member (memberUrl c member)
        (earlier.map (memberEntry c) ++ [memberEntry c member]) tls) =
      bootCommand
        (bootLines c (earlier ++ [member]) member (if earlier.length = 0 then "new" else "existing")
          tls) := by
  have hentries : earlier.map (memberEntry c) ++ [memberEntry c member] =
      (earlier ++ [member]).map fun m => m ++ "=" ++ peerUrl c m := by
    rw [← List.map_singleton, ← List.map_append]
    exact List.map_congr_left fun m _ => by rw [memberEntry, memberUrl_eq]
  have hfile : "' | sudo tee " ++ environmentFile = "' | sudo tee /etc/etcd-bootstrap-env" := by
    decide
  unfold writeEnvironment environment bootLines bootCommand shellCommand
  rw [hentries, List.length_map, List.length_append, memberUrl_eq, String.append_assoc, hfile]
  simp only [List.map_cons, List.map_nil, List.length_singleton, Nat.add_eq_right,
    String.reduceAppend]

/-! ## The calls of a start -/

/-- Whether the record of a member is to have an address, and the other fields that it had
before. -/
def PointsTo (member address : String) : Except AzureError RecordSet → RecordSet → Prop
  | .ok found, value => value = { found with addresses := [address] }
  | .error e, value => e.isNotFound = true ∧
    value = { name := some member, ttl := some 60, addresses := [address] }

/-- Whether the calls are those that come before a master is told to start a member: its address was
found, then the record of the member was written with this address, and the bundle of the member was
found. -/
def Prepared (c : AzureConfig) (inst member address : String) (tls : Tls)
    (trace : List Asked) : Prop :=
  ∃ (interface : NetworkInterface) (found : Except AzureError RecordSet) (value stored : RecordSet)
    (cert : EtcdCert), trace = [
      ⟨.cloud c.group.account c.group.name
        (.getInterface (Name.masterScaleSet c.clusterId) inst (Name.masterInterface c.clusterId)),
        .ok interface⟩,
      ⟨.cloud c.group.account c.group.name (.getRecord c.dnsZone member), found⟩,
      ⟨.cloud c.group.account c.group.name (.putRecord c.dnsZone member value), .ok stored⟩,
      ⟨.findBundle c.clusterId cert, .ok tls⟩] ∧
    interface.primaryAddress = some address ∧ PointsTo member address found value ∧
    cert.name = member

/-- The address of a master is that of its interface. -/
theorem yields_masterAddress (h : Yields (masterAddress c inst) trace address) :
    ∃ interface : NetworkInterface, interface.primaryAddress = some address ∧
      trace = [⟨.cloud c.group.account c.group.name
        (.getInterface (Name.masterScaleSet c.clusterId) inst (Name.masterInterface c.clusterId)),
        .ok interface⟩] := by
  obtain ⟨interface, before, after, rfl, hcall, hend⟩ := yields_bind.1 h
  obtain rfl := yields_groupCall.1 hcall
  cases haddress : interface.primaryAddress with
  | none =>
    rw [haddress] at hend
    cases (yields_done.1 hend).2
  | some found =>
    rw [haddress] at hend
    obtain ⟨rfl, hend⟩ := yields_done.1 hend
    cases hend
    exact ⟨interface, haddress, rfl⟩

/-- The record of a member is written with the address, and the other fields that it had before. -/
theorem yields_ensureRecord (h : Yields (ensureRecord c member address) trace ()) :
    ∃ found value stored, PointsTo member address found value ∧
      trace = [⟨.cloud c.group.account c.group.name (.getRecord c.dnsZone member), found⟩,
        ⟨.cloud c.group.account c.group.name (.putRecord c.dnsZone member value), .ok stored⟩] := by
  obtain ⟨record, before, after, rfl, hfind, hrest⟩ := yields_bind.1 h
  obtain ⟨stored, put, last, rfl, hput, hend⟩ := yields_bind.1 hrest
  obtain rfl := yields_groupCall.1 hput
  obtain ⟨rfl, -⟩ := yields_done.1 hend
  rcases yields_find?.1 hfind with ⟨found, rfl, rfl⟩ | ⟨e, he, rfl, rfl⟩
  · exact ⟨.ok found, _, stored, rfl, rfl⟩
  · exact ⟨.error e, _, stored, ⟨he, rfl⟩, rfl⟩

/-- Only members that have a certificate are started. -/
theorem yields_certOf {cert : EtcdCert} (h : Yields (certOf member) trace cert) :
    trace = [] ∧ cert.name = member := by
  unfold certOf at h
  split at h
  · rename_i found hfound
    obtain ⟨rfl, hcert⟩ := yields_done.1 h
    cases hcert
    exact ⟨rfl, by simpa using List.find?_some hfound⟩
  · cases (yields_done.1 h).2

/-- Whether a call tells a master to run a command. -/
def runs : Call → Bool
  | .cloud _ _ (.runCommand _ _ _) => true
  | _ => false

/-- The number of masters that are told to run a command. -/
def runCount (trace : List Asked) : Nat := trace.countP fun a => runs a.call

@[simp] theorem runCount_append (trace trace' : List Asked) :
    runCount (trace ++ trace') = runCount trace + runCount trace' := List.countP_append

/-- A program that runs no command. -/
theorem runCount_of_asks {α : Type} {p q : Program α} (hp : Asks (fun call => runs call = false) p)
    (path : Path .any p () trace q ()) : runCount trace = 0 := by
  refine List.countP_eq_zero.2 fun a ha => ?_
  rw [hp.of_path path a ha]
  exact Bool.false_ne_true

/-- Then none of its calls runs a command. -/
theorem not_runs {a : Asked} (h : runCount trace = 0) (hsplit : trace = before ++ a :: after) :
    ¬runs a.call = true :=
  List.countP_eq_zero.1 h a (hsplit ▸ List.mem_append_right _ List.mem_cons_self)

/-- Before a master is told, no command is run. -/
theorem Prepared.runCount (h : Prepared c inst member address tls trace) : runCount trace = 0 := by
  obtain ⟨interface, found, value, stored, cert, rfl, -⟩ := h
  rfl

/-- The call that tells a master to start a member. -/
def bootCall (c : AzureConfig) (inst : String) (command : RunCommand) : Call :=
  .cloud c.group.account c.group.name (.runCommand (Name.masterScaleSet c.clusterId) inst command)

/-- The start of a member has not come to its command, or the command is the last call, with the
calls before it that it needs. -/
theorem path_startMember {q : Program (List String)}
    (path : Path .any (startMember c inst member (earlier.map (memberEntry c))) () trace q ()) :
    (runCount trace = 0 ∧ ∀ es, q ≠ done (.ok es)) ∨
      ∃ own address tls r, Prepared c inst member address tls own ∧
        trace = own ++ [⟨bootCall c inst (bootCommand
          (bootLines c (earlier ++ [member]) member
            (if earlier.length = 0 then "new" else "existing") tls)), r⟩] ∧
        ∀ es, q = done (.ok es) → es = (earlier ++ [member]).map (memberEntry c) := by
  have haddress : Asks (fun call => runs call = false) (masterAddress c inst) := by
    refine .bind (.groupCall rfl) fun interface => ?_
    split <;> trivial
  have hrecord : ∀ address, Asks (fun call => runs call = false) (ensureRecord c member address) :=
    fun address => .bind (.find? rfl) fun found => .bind (.groupCall rfl) fun _ => trivial
  have hcert : Asks (fun call => runs call = false) (certOf member) := by
    unfold certOf
    split <;> trivial
  have hbundle : ∀ cert, Asks (fun call => runs call = false) (findBundle c.clusterId cert) :=
    fun cert => Asks.call rfl
  unfold startMember at path
  rcases path.bind_split with ⟨_, hrun, hnot⟩ | ⟨address, ⟨⟩, first, trace₁, rfl, hfirst, path₁⟩
  · exact Or.inl ⟨runCount_of_asks haddress hrun, hnot⟩
  obtain ⟨interface, hprimary, rfl⟩ := yields_masterAddress hfirst
  rcases path₁.bind_split with ⟨_, hrun, hnot⟩ | ⟨⟨⟩, ⟨⟩, second, trace₂, rfl, hsecond, path₂⟩
  · have hnone := runCount_of_asks (hrecord address) hrun
    exact Or.inl ⟨hnone, hnot⟩
  obtain ⟨found, value, stored, hpoints, rfl⟩ := yields_ensureRecord hsecond
  rcases path₂.bind_split with ⟨_, hrun, hnot⟩ | ⟨cert, ⟨⟩, third, trace₃, rfl, hthird, path₃⟩
  · have hnone := runCount_of_asks hcert hrun
    exact Or.inl ⟨hnone, hnot⟩
  obtain ⟨rfl, hname⟩ := yields_certOf hthird
  rcases path₃.bind_split with ⟨_, hrun, hnot⟩ | ⟨tls, ⟨⟩, fourth, trace₄, rfl, hfourth, path₄⟩
  · have hnone := runCount_of_asks (hbundle cert) hrun
    exact Or.inl ⟨hnone, hnot⟩
  obtain rfl := yields_call.1 hfourth
  have hprepared : Prepared c inst member address tls _ :=
    ⟨interface, found, value, stored, cert, rfl, hprimary, hpoints, hname⟩
  dsimp only at path₄
  rw [writeEnvironment_eq] at path₄
  rcases Path.call_cases path₄ with ⟨rfl, hnot⟩ | ⟨e, rfl, rfl⟩ | ⟨operation, ⟨⟩, after, rfl, hend⟩
  · exact Or.inl ⟨hprepared.runCount, fun es => hnot _⟩
  · exact Or.inr ⟨_, address, tls, _, hprepared, rfl, fun es hes => by cases hes⟩
  · cases hend
    refine Or.inr ⟨_, address, tls, _, hprepared, rfl, fun es hes => ?_⟩
    cases hes
    rw [List.map_append, List.map_singleton]

/-! ## The member of a master -/

/-- Finding out the member of a master runs no command. -/
theorem asks_ensureMember (c : AzureConfig) (subscription : String) (v : Instance) :
    Asks (fun call => runs call = false) (ensureMember c subscription v) := by
  have hmove : ∀ d, Asks (fun call => runs call = false) (migrateDisk c d) := fun d =>
    .bind (.groupCall rfl) fun _ => .bind (.groupCall rfl) fun _ => .bind (.groupCall rfl) fun _ =>
      .bind (.groupCall rfl) fun _ => .bind (.groupCall rfl) fun _ => .groupCall rfl
  have hfind : ∀ zone, Asks (fun call => runs call = false) (findAvailableDisk c zone) := by
    refine fun zone => .bind (.groupCall rfl) fun disks => ?_
    cases chooseDisk zone disks with
    | use d => trivial
    | move d => exact (hmove d).bind fun _ => trivial
    | nothing => trivial
  unfold ensureMember
  split
  · refine (hfind _).bind fun disk => ?_
    split
    · trivial
    · exact .bind (.groupCall rfl) fun _ => trivial
  · trivial

/-- Whether a master has the disk of a member at its first unit, or was just given it. -/
def Has (c : AzureConfig) (subscription : String) (v : Instance) (member : String)
    (trace : List Asked) : Prop :=
  (∃ d, v.diskAt diskUnit = some d ∧ d.name = some member) ∨
    ∃ first operation, trace = first ++ [⟨handOver c subscription v member, .ok operation⟩]

/-- The member of a master is that of its disk. -/
theorem has_of_ensureMember (h : Yields (ensureMember c subscription v) trace member)
    (hmember : member ≠ "") :
    Has c subscription v member trace := by
  unfold ensureMember at h
  split at h
  · obtain ⟨disk, before, after, rfl, hfind, hrest⟩ := yields_bind.1 h
    split at hrest
    · obtain ⟨-, hend⟩ := yields_done.1 hrest
      cases hend
      exact absurd rfl hmember
    · obtain ⟨operation, put, last, rfl, hput, hend⟩ := yields_bind.1 hrest
      obtain rfl := yields_groupCall.1 hput
      obtain ⟨rfl, hend⟩ := yields_done.1 hend
      cases hend
      exact Or.inr ⟨before, operation, rfl⟩
  · obtain ⟨-, hend⟩ := yields_done.1 h
    cases hend
    left
    unfold memberOf at hmember ⊢
    cases hdisk : v.diskAt diskUnit with
    | none =>
      rw [hdisk] at hmember
      exact absurd rfl hmember
    | some d =>
      rw [hdisk] at hmember
      cases hname : d.name with
      | none =>
        rw [Option.bind_some, hname] at hmember
        exact absurd rfl hmember
      | some n => exact ⟨d, rfl, by rw [Option.bind_some, hname]; rfl⟩

/-! ## Members in turn -/

/-- Whether a call tells a ready master to start the member of a place in a list: the master has its
disk or was just given it, its address and bundle were found and its record was written right
before, and the environment names the members up to that place. -/
structure Boots (c : AzureConfig) (subscription : String) (members : List String) (i : Nat)
    (before : List Asked) (call : Call) (v : Instance) (member : String) : Prop where
  name : members[i]? = some member
  ready : v.succeeded = true
  told : ∃ first own address tls, before = first ++ own ∧ Has c subscription v member first ∧
    Prepared c v.instanceId member address tls own ∧
    call = bootCall c v.instanceId (bootCommand
      (bootLines c (members.take (i + 1)) member (if i = 0 then "new" else "existing") tls))

/-- Later members and earlier calls change nothing. -/
theorem Boots.extend (h : Boots c subscription members i before call v member) (first : List Asked)
    (more : List String) :
    Boots c subscription (members ++ more) i (first ++ before) call v member where
  name := by
    rw [List.getElem?_append_left (List.getElem?_eq_some_iff.1 h.name).1]
    exact h.name
  ready := h.ready
  told := by
    obtain ⟨begun, own, address, tls, rfl, hhas, hprepared, hcall⟩ := h.told
    refine ⟨first ++ begun, own, address, tls, (List.append_assoc _ _ _).symm, ?_, hprepared, ?_⟩
    · rcases hhas with hheld | ⟨start, operation, rfl⟩
      · exact Or.inl hheld
      · exact Or.inr ⟨first ++ start, operation, (List.append_assoc _ _ _).symm⟩
    · rw [List.take_append_of_le_length (List.getElem?_eq_some_iff.1 h.name).1]
      exact hcall

/-- Whether the masters that a trace tells are listed ones, each of which starts the next one of the
members, behind those started earlier. -/
def InTurn (c : AzureConfig) (subscription : String) (listed : List Instance)
    (earlier : List String) (trace : List Asked) (members : List String) : Prop :=
  members.length = runCount trace ∧ ∀ before a after, trace = before ++ a :: after →
  runs a.call = true →
    ∃ v ∈ listed, ∃ member,
      Boots c subscription (earlier ++ members) (earlier.length + runCount before) before
        a.call v member

/-- When only the last call of a trace may run a command, a call that does is the last one. -/
theorem split_last {before' : List Asked} {a b : Asked} (hnone : runCount before = 0)
    (hruns : runs b.call = true)
    (hsplit : before ++ [a] = before' ++ b :: after) : before' = before ∧ b = a := by
  rcases split_of_concat hsplit with ⟨rfl, rfl, -⟩ | ⟨rest, -, hfront⟩
  · exact ⟨rfl, rfl⟩
  · exact absurd hruns (not_runs hnone hfront)

namespace InTurn

/-- No master is told. -/
theorem none (h : runCount trace = 0) : InTurn c subscription listed earlier trace [] :=
  ⟨h.symm, fun _ _ _ hsplit hruns => absurd hruns (not_runs h hsplit)⟩

/-- One master is told, at the end. -/
theorem one {a : Asked} (hnone : runCount before = 0) (hruns : runs a.call = true)
    (hboots : Boots c subscription (earlier ++ [member]) earlier.length before a.call v member) :
    InTurn c subscription [v] earlier (before ++ [a]) [member] := by
  have hcount : runCount [a] = 1 := List.countP_singleton.trans (if_pos hruns)
  refine ⟨by rw [runCount_append, hnone, hcount]; rfl, fun before' b after hsplit hruns' => ?_⟩
  obtain ⟨rfl, rfl⟩ := split_last hnone hruns' hsplit
  rw [hnone]
  exact ⟨v, List.mem_singleton_self v, member, hboots⟩

/-- Masters that are told one after the other. -/
theorem append {trace' : List Asked} (h : InTurn c subscription listed earlier trace members)
    (h' : InTurn c subscription listed (earlier ++ members) trace' members') :
    InTurn c subscription listed earlier (trace ++ trace') (members ++ members') := by
  refine ⟨by rw [List.length_append, runCount_append, h.1, h'.1],
    fun before a after hsplit hruns => ?_⟩
  have hsecond : ∀ rest, trace' = rest ++ a :: after → ∃ v ∈ listed, ∃ member,
      Boots c subscription (earlier ++ (members ++ members'))
        (earlier.length + runCount (trace ++ rest)) (trace ++ rest) a.call v member := by
    rintro rest rfl
    obtain ⟨v, hv, member, hboots⟩ := h'.2 rest a after rfl hruns
    rw [List.append_assoc, List.length_append, h.1, Nat.add_assoc, ← runCount_append] at hboots
    have hlater := hboots.extend trace []
    rw [List.append_nil] at hlater
    exact ⟨v, hv, member, hlater⟩
  rcases List.append_eq_append_iff.1 hsplit with ⟨rest, rfl, hrest⟩ | ⟨rest, htrace, hrest⟩
  · exact hsecond rest hrest
  · cases rest with
    | nil =>
      rw [List.append_nil] at htrace
      subst htrace
      have hlast := hsecond [] hrest.symm
      rwa [List.append_nil] at hlast
    | cons b rest =>
      obtain ⟨rfl, -⟩ := List.cons.inj hrest
      obtain ⟨v, hv, member, hboots⟩ := h.2 before a rest htrace hruns
      have hmore := hboots.extend [] members'
      rw [List.append_assoc] at hmore
      exact ⟨v, hv, member, hmore⟩

/-- More masters may be listed. -/
theorem mono {more : List Instance} (h : InTurn c subscription listed earlier trace members)
    (hsub : listed ⊆ more) :
    InTurn c subscription more earlier trace members := by
  refine ⟨h.1, fun before a after hsplit hruns => ?_⟩
  obtain ⟨v, hv, hboots⟩ := h.2 before a after hsplit hruns
  exact ⟨v, hsub hv, hboots⟩

end InTurn

/-- What a pass does about one master starts its member, next in turn, if anything. -/
theorem inTurn_serve {q : Program (List String)}
    (path : Path .any (serve c subscription (earlier.map (memberEntry c)) v) () trace q ()) :
    ∃ members, InTurn c subscription [v] earlier trace members ∧
      ∀ es, q = done (.ok es) → es = (earlier ++ members).map (memberEntry c) := by
  -- As long as nothing is told, the entries are those of the members started earlier.
  have hnobody : runCount trace = 0 → (∀ es, q = done (.ok es) → es = earlier.map (memberEntry c)) →
      ∃ members, InTurn c subscription [v] earlier trace members ∧
        ∀ es, q = done (.ok es) → es = (earlier ++ members).map (memberEntry c) := by
    intro hnone hentries
    refine ⟨[], .none hnone, ?_⟩
    rw [List.append_nil]
    exact hentries
  unfold serve at path
  split at path
  · rename_i hready
    rcases path.bind_split with ⟨_, hrun, hnot⟩ | ⟨member, ⟨⟩, first, rest, rfl, hmember, path₁⟩
    · exact hnobody (runCount_of_asks (asks_ensureMember c subscription v) hrun) fun es hes =>
        absurd hes (hnot es)
    have hfirst := runCount_of_asks (asks_ensureMember c subscription v) hmember
    split at path₁
    · cases path₁
      rw [List.append_nil] at hnobody ⊢
      refine hnobody hfirst fun es hes => ?_
      cases hes
      rfl
    · rename_i hsome
      have hhas := has_of_ensureMember hmember (by simpa using hsome)
      rcases path_startMember path₁ with ⟨hnone, hnot⟩ |
        ⟨own, address, tls, r, hprepared, rfl, hentries⟩
      · exact hnobody (by rw [runCount_append, hfirst, hnone]) fun es hes => absurd hes (hnot es)
      · have hlength : (earlier ++ [member]).length = earlier.length + 1 := List.length_append
        refine ⟨[member], ?_, hentries⟩
        rw [← List.append_assoc]
        refine .one (by rw [runCount_append, hfirst, hprepared.runCount]) rfl ⟨?_, hready, ?_⟩
        · exact List.getElem?_concat_length
        · refine ⟨first, own, address, tls, rfl, hhas, hprepared, ?_⟩
          rw [List.take_of_length_le (Nat.le_of_eq hlength)]
  · cases path
    refine hnobody rfl fun es hes => ?_
    cases hes
    rfl

/-- The masters of a list are told in turn. -/
theorem inTurn_attachAll {q : Program Unit}
    (path : Path .any (attachAll c subscription (earlier.map (memberEntry c)) l) () trace q ()) :
    ∃ members, InTurn c subscription l earlier trace members := by
  induction l generalizing earlier trace with
  | nil =>
    cases path
    exact ⟨[], .none rfl⟩
  | cons v rest ih =>
    have hone : [v] ⊆ v :: rest := List.cons_subset_cons v (List.nil_subset rest)
    rw [attachAll_cons] at path
    rcases path.bind_split with ⟨_, hserve, -⟩ | ⟨entries, ⟨⟩, first, last, rfl, hserve, hrest⟩
    · obtain ⟨members, hturn, -⟩ := inTurn_serve hserve
      exact ⟨members, hturn.mono hone⟩
    · obtain ⟨members, hturn, hentries⟩ := inTurn_serve hserve
      rw [hentries entries rfl] at hrest
      obtain ⟨members', hturn'⟩ := ih hrest
      exact ⟨members ++ members', (hturn.mono hone).append
        (hturn'.mono (List.subset_cons_self v rest))⟩

/-! ## The first failure -/

/-- Whether a call was answered so that nothing can follow: it failed, other than that there is no
record of a member yet, or a master has no address, or a member has no certificate. -/
def Stops : Asked → Prop
  | ⟨.cloud _ _ (.getRecord _ _), .error e⟩ => e.isNotFound = false
  | ⟨_, .error _⟩ => True
  | ⟨.cloud _ _ (.getInterface _ _ _), .ok interface⟩ => interface.primaryAddress = none
  | ⟨.cloud _ _ (.putRecord _ member _), .ok _⟩ => EtcdCert.ofName? member = none
  | _ => False

theorem halts_startMember (c : AzureConfig) (inst member : String) (entries : List String) :
    Halts Stops (startMember c inst member entries) := by
  have haddress : Halts Stops (masterAddress c inst) := by
    refine .call_bind (fun interface (hnone : interface.primaryAddress = none) => ?_)
      fun interface => ?_
    · rw [hnone]
      exact ⟨_, rfl⟩
    · split <;> trivial
  unfold startMember
  refine haddress.bind fun address => ?_
  -- That a member has no certificate is found out right behind the writing of its record.
  unfold ensureRecord
  simp only [bind_eq, bind_assoc]
  refine .bind (.find? (fun _ => id) fun e he (hother : e.isNotFound = false) => ?_) fun found => ?_
  · rw [he] at hother
    cases hother
  unfold certOf
  refine .call_bind (fun _ (hnone : EtcdCert.ofName? member = none) => ?_) fun _ => ?_
  · rw [hnone]
    exact ⟨_, rfl⟩
  cases EtcdCert.ofName? member with
  | none => trivial
  | some cert =>
    exact .bind (p := findBundle c.clusterId cert) (.call fun _ => id) fun tls =>
      .bind (.call fun _ => id) fun _ => trivial

theorem halts_ensureMember (c : AzureConfig) (subscription : String) (v : Instance) :
    Halts Stops (ensureMember c subscription v) := by
  have hmove : ∀ d, Halts Stops (migrateDisk c d) := fun d =>
    .bind (.call fun _ => id) fun _ => .bind (.call fun _ => id) fun _ =>
      .bind (.call fun _ => id) fun _ =>
      .bind (.call fun _ => id) fun _ => .bind (.call fun _ => id) fun _ => .call fun _ => id
  have hfind : ∀ zone, Halts Stops (findAvailableDisk c zone) := by
    refine fun zone => .bind (.call fun _ => id) fun disks => ?_
    cases chooseDisk zone disks with
    | use d => trivial
    | move d => exact (hmove d).bind fun _ => trivial
    | nothing => trivial
  unfold ensureMember
  split
  · refine (hfind _).bind fun disk => ?_
    split
    · trivial
    · exact .bind (.call fun _ => id) fun _ => trivial
  · trivial

theorem halts_attachAll (c : AzureConfig) (subscription : String) (entries : List String)
    (l : List Instance) :
    Halts Stops (attachAll c subscription entries l) := by
  induction l generalizing entries with
  | nil => trivial
  | cons v rest ih =>
    rw [attachAll_cons]
    refine .bind ?_ ih
    unfold serve
    split
    · refine (halts_ensureMember c subscription v).bind fun member => ?_
      split
      · trivial
      · exact halts_startMember c _ member entries
    · trivial

/-! ## A pass -/

/-- The listing of the masters. -/
def listing (c : AzureConfig) : Call :=
  .cloud c.group.account c.group.name (.listInstances (Name.masterScaleSet c.clusterId))

/-- A pass has not listed the masters yet, or there are none to list, or it is on its way through
them. -/
theorem path_attachDisks {q : Program Unit}
    (path : Path .any (attachDisks c subscription) () trace q ()) :
    trace = [] ∨ (∃ e, trace = [⟨listing c, .error e⟩] ∧
        ((∃ e', q = done (.error e')) ∨ (e.isNotFound = true ∧ q = done (.ok ())))) ∨
      ∃ listed rest, trace = ⟨listing c, .ok listed⟩ :: rest ∧
        Path .any (attachAll c subscription [] listed) () rest q () := by
  unfold attachDisks ResourceGroup.find? at path
  cases path with
  | here => exact Or.inl rfl
  | @ask _ _ _ _ _ _ r rest turn path =>
    cases r with
    | ok listed => exact Or.inr (Or.inr ⟨listed, rest, rfl, path⟩)
    | error e =>
      refine Or.inr (Or.inl ⟨e, ?_⟩)
      dsimp only at path
      split at path
      · rename_i he
        cases path
        exact ⟨rfl, Or.inr ⟨he, rfl⟩⟩
      · cases path
        exact ⟨rfl, Or.inl ⟨_, rfl⟩⟩

/-- Whether the masters that a pass tells start the given members, each the one of its place. -/
def StartsMembers (c : AzureConfig) (subscription : String) (trace : List Asked)
    (members : List String) : Prop :=
  members.length = runCount trace ∧ ∀ before a after, trace = before ++ a :: after →
  runs a.call = true →
    ∃ listed, Lists c before listed ∧ ∃ v ∈ listed, ∃ member,
      Boots c subscription members (runCount before) before a.call v member

/-- A pass that tells nobody. -/
theorem startsMembers_nil (h : runCount trace = 0) : StartsMembers c subscription trace [] :=
  ⟨h.symm, fun _ _ _ hsplit hruns => absurd hruns (not_runs h hsplit)⟩

/-- The masters that were listed are told in turn. -/
theorem InTurn.startsMembers (h : InTurn c subscription listed [] trace members) :
    StartsMembers c subscription (⟨listing c, .ok listed⟩ :: trace) members := by
  have hcount : ∀ asked, runCount (⟨listing c, .ok listed⟩ :: asked) = runCount asked :=
    fun asked =>
    List.countP_cons_of_neg Bool.false_ne_true
  refine ⟨by rw [hcount, h.1], fun before a after hsplit hruns => ?_⟩
  cases before with
  | nil =>
    obtain ⟨rfl, -⟩ := List.cons.inj hsplit
    cases hruns
  | cons b before =>
    obtain ⟨rfl, hrest⟩ := List.cons.inj hsplit
    obtain ⟨v, hv, member, hboots⟩ := h.2 before a after hrest hruns
    have hlater := hboots.extend [⟨listing c, .ok listed⟩] []
    rw [List.append_nil, List.nil_append, List.length_nil, Nat.zero_add] at hlater
    rw [hcount]
    exact ⟨listed, ⟨before, rfl⟩, v, hv, member, hlater⟩

/-- **Members in turn.** Whatever a pass is answered, there are members, one for each command that
it runs, so that each command tells a listed, ready master to start the member of its place. The
master has the disk of this member or was just given it; its address was found, the record of the
member written with it and the bundle of the member found right before; and it is told the members
up to this one, and that the cluster is new if it is the first. A failure is the end of the pass. -/
theorem members_started_in_turn {q : Program Unit}
    (path : Path .any (attachDisks c subscription) () trace q ()) :
    (∃ members, StartsMembers c subscription trace members) ∧
    ∀ before a after, trace = before ++ a :: after → Stops a → after = [] ∧
      ((∃ e, q = done (.error e)) ∨
        ∃ e : AzureError, e.isNotFound = true ∧ a = ⟨listing c, .error e⟩ ∧ q = done (.ok ())) := by
  rcases path_attachDisks path with rfl | ⟨e, rfl, hend⟩ | ⟨listed, rest, rfl, hrest⟩
  · exact ⟨⟨[], startsMembers_nil rfl⟩, fun before a after hsplit => absurd hsplit (by simp)⟩
  · refine ⟨⟨[], startsMembers_nil rfl⟩, fun before a after hsplit _ => ?_⟩
    obtain ⟨rfl, rfl, rfl⟩ : before = [] ∧ a = ⟨listing c, .error e⟩ ∧ after = [] := by
      cases before with
      | nil =>
        obtain ⟨rfl, rfl⟩ := List.cons.inj hsplit
        exact ⟨rfl, rfl, rfl⟩
      | cons b before => exact absurd (List.cons.inj hsplit).2 (by simp)
    refine ⟨rfl, ?_⟩
    rcases hend with hfailed | ⟨he, hnone⟩
    · exact Or.inl hfailed
    · exact Or.inr ⟨e, he, rfl, hnone⟩
  · have hturns : ∃ members, InTurn c subscription listed [] rest members := inTurn_attachAll hrest
    obtain ⟨members, hturn⟩ := hturns
    refine ⟨⟨members, hturn.startsMembers⟩, fun before a after hsplit hstops => ?_⟩
    cases before with
    | nil =>
      obtain ⟨rfl, -⟩ := List.cons.inj hsplit
      exact hstops.elim
    | cons b before =>
      obtain ⟨-, rfl⟩ := List.cons.inj hsplit
      obtain ⟨hlast, hfailed⟩ := (halts_attachAll c subscription [] listed).ends hrest hstops
      exact ⟨hlast, Or.inl hfailed⟩

/-- Two masters without disks start two members. -/
theorem members_started_in_turn_pair :
    runCount (supplying (bareMaster "0")) = 2 ∧
      ∃ members, members.length = 2 ∧
        StartsMembers smallCluster "sub-tenant" (supplying (bareMaster "0")) members := by
  have hcount : runCount (supplying (bareMaster "0")) = 2 := by decide +kernel
  obtain ⟨members, hstarts⟩ := (members_started_in_turn (path_attaching World.handler
    (pairWorld (bareMaster "0") (bareMaster "1") [spareDisk "etcd1", spareDisk "etcd2"]))).1
  exact ⟨hcount, members, hstarts.1.trans hcount, hstarts⟩

end TenantFleet.Etcd
