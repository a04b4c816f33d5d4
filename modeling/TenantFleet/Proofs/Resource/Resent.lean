/-
# Resources that are read, changed and stored again

A pass stores again what it has read: a scale set with another capacity, an instance with one disk
more, a disk without tags, a record set with another address. The request carries the change, and of
the rest of the document that was read what the form of the resource sends back.

* `Update` : the requests that store again what was read from a document;
* `Update.resent` : what these requests carry of the document;
* `not_resent_whole` : that is not all of it, up to the change and what the cloud reports.
-/
import TenantFleet.Cloud.Service
import TenantFleet.Proofs.Etcd.Exclusive
import TenantFleet.Proofs.Resource.Change

namespace TenantFleet

open Json (Apart Atom Changed Step atomIn)
open Program (Issues Yields)

/-! ## Documents -/

/-- Whether a document has what the form of a resource sends back of another one, and the
changes. -/
structure Resent (form : Form) (changes : List (List Step × Json)) (x : Json.Written)
    (body : Json) : Prop where
  /-- Apart from the changes, what was there is sent back as the form does. -/
  kept : ∀ p, (∀ c ∈ changes, Apart p c.1) → ∀ a, x.atomAt? p = some a →
    atomIn (some body) p = form.sends p a
  /-- The changes are made. -/
  changed : ∀ c ∈ changes, ∀ p, atomIn (some body) (c.1 ++ p) = atomIn (some c.2) p

/-- A value that is read, changed and written is sent back in its form. -/
theorem Form.Keeps.of_changed {α : Type} {form : Form} {read : Reader α} {write : α → Json}
    {x : Json.Written}
    {v : α} {body : Json} {changes : List (List Step × Json)} (hform : form.Keeps read write)
    (hread : read x = some v) (hchanged : Changed changes (write v) body) :
    Resent form changes x body where
  kept p hp a ha := by
    rw [hchanged.elsewhere p hp]
    exact hform x v hread p a ha
  changed := hchanged.there

/-! ## Requests -/

section

variable {account : Account} {group name : String} {trace : List Asked}

/-- The scale set that is stored to change the capacity. -/
theorem Workers.eq_of_rescale {scope : Scope} {s value : ScaleSet} {capacity : Int}
    {autoscaler : Bool} (h : Issues (rescale scope s capacity autoscaler) trace
      (.cloud account group (.putScaleSet name value))) : value = resize s capacity autoscaler := by
  rcases Program.issues_bind.1 h with hput | ⟨operation, before, after, -, -, hwait⟩
  · cases (Program.issues_groupCall.1 hput).2
    rfl
  · cases (Program.issues_groupCall.1 hwait).2

namespace Etcd

variable {c : AzureConfig}

/-- The instance that is stored to attach a disk; the disk was chosen from the listing. -/
theorem eq_of_attachDisk {subscription scaleSet inst : String} {v value : Instance}
    (h : Issues (attachDisk c subscription v) trace
      (.cloud account group (.putInstance scaleSet inst value))) :
    ∃ disks d, trace = [⟨.cloud c.group.account c.group.name .listDisks, .ok disks⟩] ∧
      chooseDisk (v.zone.getD "") disks = .use d ∧
        value = v.attach diskUnit d.name (diskId subscription c.clusterId d.name) := by
  rcases Program.issues_bind.1 h with hfind | ⟨disk, before, after, rfl, hdisk, hrest⟩
  · exact absurd trivial ((asks_findAvailableDisk c _).of_issues hfind)
  · split at hrest
    · exact absurd hrest Program.not_issues_done
    · rename_i hsome
      obtain ⟨disks, d, rfl, hchoice, rfl⟩ := yields_findAvailableDisk hdisk (by simpa using hsome)
      rcases Program.issues_bind.1 hrest with hput | ⟨_, _, _, _, _, hend⟩
      · obtain ⟨rfl, hcall⟩ := Program.issues_groupCall.1 hput
        cases hcall
        exact ⟨disks, d, rfl, hchoice, rfl⟩
      · exact absurd hend Program.not_issues_done

/-- The disk that is stored to hide it. -/
theorem eq_of_migrateDisk {d value : Disk}
    (h : Issues (migrateDisk c d) trace (.cloud account group (.putDisk name value))) :
    value = { d with tags := .empty } := by
  have hasks : Program.Asks (fun call => ∀ account group name value,
      call = .cloud account group (.putDisk name value) → value = { d with tags := .empty })
      (migrateDisk c d) := by
    refine .bind (.groupCall fun _ _ _ _ h => by cases h; rfl) fun _ => ?_
    refine .bind (.groupCall fun _ _ _ _ h => by cases h) fun _ => ?_
    refine .bind (.groupCall fun _ _ _ _ h => by cases h) fun _ => ?_
    refine .bind (.groupCall fun _ _ _ _ h => by cases h) fun _ => ?_
    refine .bind (.groupCall fun _ _ _ _ h => by cases h) fun _ => ?_
    exact .groupCall fun _ _ _ _ h => by cases h
  exact hasks.of_issues h account group name value rfl

/-- The record set that is stored to point a member elsewhere, when there was one before. -/
theorem eq_of_ensureRecord {member address zone : String} {r value : RecordSet}
    (h : Issues (ensureRecord c member address) trace
      (.cloud account group (.putRecord zone name value)))
    (hfound : ⟨.cloud c.group.account c.group.name (.getRecord c.dnsZone member), .ok r⟩ ∈ trace) :
    value = { r with addresses := [address] } := by
  rcases Program.issues_bind.1 h with hfind | ⟨found, before, after, rfl, hanswer, hrest⟩
  · cases (Program.issues_find?.1 hfind).2
  · rcases Program.issues_bind.1 hrest with hput | ⟨_, _, _, _, _, hend⟩
    · obtain ⟨rfl, hcall⟩ := Program.issues_groupCall.1 hput
      rw [List.append_nil] at hfound
      rcases Program.yields_find?.1 hanswer with ⟨a, rfl, rfl⟩ | ⟨e, -, -, rfl⟩
      · cases List.mem_singleton.1 hfound
        cases hcall
        rfl
      · cases List.mem_singleton.1 hfound
    · exact absurd hend Program.not_issues_done

end Etcd

end

/-- The requests that store again, with changes, what was read from a document, and the form of
it. -/
inductive Update (x : Json.Written) : CloudCall → Form → List (List Step × Json) → Prop
  /-- A scale set gets another capacity. -/
  | rescale {trace : List Asked} {account : Account} {group name : String} {scope : Workers.Scope}
      {s value : ScaleSet} {capacity : Int} {autoscaler : Bool} (hread : ScaleSet.read x = some s)
      (hissued : Issues (Workers.rescale scope s capacity autoscaler) trace
        (.cloud account group (.putScaleSet name value))) :
      Update x (.putScaleSet name value) ScaleSet.form
        [(ScaleSet.capacityPlace, .int capacity),
          (tagPlace Tag.autoscalerEnabled, .str (if autoscaler then "true" else "false"))]
  /-- An instance gets the disk that was chosen from the listing, as every disk that is attached. -/
  | attach {trace : List Asked} {account : Account} {group name : String} {c : AzureConfig}
      {subscription inst : String} {v value : Instance} {disks : List Disk} {d : Disk}
      (hread : Instance.read x = some v)
      (hissued : Issues (Etcd.attachDisk c subscription v) trace
        (.cloud account group (.putInstance name inst value)))
      (hlisted : ⟨.cloud c.group.account c.group.name .listDisks, .ok disks⟩ ∈ trace)
      (hchosen : Etcd.chooseDisk (v.zone.getD "") disks = .use d) :
      Update x (.putInstance name inst value) Instance.form
        [(Instance.diskPlace v.dataDisks.length,
          (DataDisk.attached Etcd.diskUnit d.name (diskId subscription c.clusterId d.name)).toJson)]
  /-- A disk loses its tags. -/
  | migrate {trace : List Asked} {account : Account} {group name : String} {c : AzureConfig}
      {d value : Disk} (hread : Disk.read x = some d)
      (hissued : Issues (Etcd.migrateDisk c d) trace (.cloud account group (.putDisk name value))) :
      Update x (.putDisk name value) Disk.form [(tagsPlace, .obj [])]
  /-- A record set that was found gets another address. -/
  | record {trace : List Asked} {account : Account} {group name : String} {c : AzureConfig}
      {member address zone : String} {r value : RecordSet}
      (hread : RecordSet.read x = some r)
      (hissued : Issues (Etcd.ensureRecord c member address) trace
        (.cloud account group (.putRecord zone name value)))
      (hfound : ⟨.cloud c.group.account c.group.name (.getRecord c.dnsZone member),
        .ok r⟩ ∈ trace) :
      Update x (.putRecord zone name value) RecordSet.form
        [(RecordSet.addressesPlace, .arr [RecordSet.addressJson address])]

/-- A request that stores a document begins with sending it. -/
def Stores (s : CloudService) (group : String) (call : CloudCall) (body : Json) : Prop :=
  ∃ r resume, s.perform group call = .send r resume ∧ r.method = .put ∧ r.body = some (.json body)

/-- What is stored again carries the change, and what its form sends back of what was read. -/
theorem Update.resent {x : Json.Written} {call : CloudCall} {form : Form}
    {changes : List (List Step × Json)} (h : Update x call form changes) (s : CloudService)
    (group : String) : ∃ body, Stores s group call body ∧ Resent form changes x body := by
  cases h with
  | rescale hread hissued =>
    obtain rfl := Workers.eq_of_rescale hissued
    exact ⟨_, ⟨_, _, rfl, rfl, rfl⟩, ScaleSet.keeps.of_changed hread (Workers.changed_resize _ _ _)⟩
  | attach hread hissued hlisted hchosen =>
    obtain ⟨disks, d, rfl, hchoice, rfl⟩ := Etcd.eq_of_attachDisk hissued
    -- There was one listing, so the disk that was chosen from it is the one that is attached.
    cases List.mem_singleton.1 hlisted
    rw [hchosen] at hchoice
    cases hchoice
    exact ⟨_, ⟨_, _, rfl, rfl, rfl⟩,
      Instance.keeps.of_changed hread
        (Instance.changed_attach (Instance.separated_of_read hread) _ _ _)⟩
  | migrate hread hissued =>
    obtain rfl := Etcd.eq_of_migrateDisk hissued
    exact ⟨_, ⟨_, _, rfl, rfl, rfl⟩, Disk.keeps.of_changed hread (Disk.changed_untag _)⟩
  | record hread hissued hfound =>
    obtain rfl := Etcd.eq_of_ensureRecord hissued hfound
    exact ⟨_, ⟨_, _, rfl, rfl, rfl⟩,
      RecordSet.keeps.of_changed hread (RecordSet.changed_addresses _ [_])⟩

/-! ## An instance with members that are not known -/

namespace Spot

/-- An instance at a reduced price, with a disk that is cached and was restored from a copy. -/
def document : Json.Written :=
  .obj [("instanceId", .str "0"), ("location", .str "westeurope"), ("priority", .str "Spot"),
    ("properties", .obj [("storageProfile", .obj [("dataDisks", .arr [
      .obj [("lun", .num (.int 1)), ("createOption", .str "Restore"),
        ("caching", .str "ReadOnly")]])])])]

/-- What is read of it. -/
def machine : Instance :=
  { instanceId := "0", location := "westeurope",
    storage := some { dataDisks := [{ lun := 1, createOption := .unknown }] } }

theorem read_document : Instance.read document = some machine := by decide

/-- The listing that a free disk is chosen from. -/
def listing : List Asked :=
  [⟨.cloud Etcd.smallCluster.group.account Etcd.smallCluster.group.name .listDisks,
    .ok [Etcd.spareDisk "etcd1"]⟩]

/-- The instance with that disk. -/
def attached : Instance :=
  machine.attach Etcd.diskUnit "etcd1" (diskId "sub-tenant" Etcd.smallCluster.clusterId "etcd1")

/-- The request that stores it. -/
def request : CloudCall := .putInstance (Name.masterScaleSet Etcd.smallCluster.clusterId)
    "0" attached

/-- What the request is to change. -/
def changes : List (List Step × Json) :=
  [(Instance.diskPlace 1, (DataDisk.attached Etcd.diskUnit "etcd1"
    (diskId "sub-tenant" Etcd.smallCluster.clusterId "etcd1")).toJson)]

theorem chooseDisk_listing :
    Etcd.chooseDisk (machine.zone.getD "") [Etcd.spareDisk "etcd1"] =
      .use (Etcd.spareDisk "etcd1") := by
  decide

/-- The pass makes the request after the listing. -/
theorem issues_request :
    Issues (Etcd.attachDisk Etcd.smallCluster "sub-tenant" machine) listing
      (.cloud Etcd.smallCluster.group.account Etcd.smallCluster.group.name request) := by
  refine Program.issues_bind.2 (Or.inr ⟨"etcd1", listing, [], rfl, ?_, ?_⟩)
  · refine Program.yields_bind.2 ⟨[Etcd.spareDisk "etcd1"], listing, [], rfl, ?_, ?_⟩
    · exact Program.yields_groupCall.2 rfl
    · rw [chooseDisk_listing]
      exact Program.yields_done.2 ⟨rfl, rfl⟩
  · exact Program.issues_bind.2 (Or.inl (Program.issues_groupCall.2 ⟨rfl, rfl⟩))

theorem update : Update document request Instance.form changes := by
  have hlisted : ⟨.cloud Etcd.smallCluster.group.account Etcd.smallCluster.group.name .listDisks,
      .ok [Etcd.spareDisk "etcd1"]⟩ ∈ listing := List.mem_cons_self
  have hupdate := Update.attach read_document issues_request hlisted chooseDisk_listing
  exact hupdate

end Spot

/-- The instance is stored with the disk, and with what its form sends back. -/
theorem resent_spot :
    Update Spot.document Spot.request Instance.form Spot.changes ∧
      ∃ body, Stores default "abc12" Spot.request body ∧
        Resent Instance.form Spot.changes Spot.document body :=
  ⟨Spot.update, Update.resent Spot.update default "abc12"⟩

/-- What the cloud reports of a resource and does not want back. -/
def reportedPlaces : List (List Step) :=
  [[.member "properties", .member "provisioningState"],
    [.member "properties", .member "latestModelApplied"]]

/-- Not all is sent back that was read, apart from the changes and what the cloud reports: of the
instance above the price is lost. -/
theorem not_resent_whole :
    ¬ ∀ x call form changes, Update x call form changes → ∀ s group body, Stores s group call body →
      ∀ p, (∀ c ∈ changes, Apart p c.1) → (∀ c ∈ reportedPlaces, Apart p c) →
        ∀ a, x.atomAt? p = some a → atomIn (some body) p = some a := by
  intro hall
  have hstores : Stores default "abc12" Spot.request Spot.attached.toJson := ⟨_, _, rfl, rfl, rfl⟩
  have hprice := hall _ _ _ _ Spot.update _ _ _ hstores [.member "priority"] (by decide) (by decide)
    (.str "Spot") rfl
  -- The body has no member of that name.
  revert hprice
  decide

end TenantFleet
