/-
# Resources are read again

A resource that was read is sent as a document that is read as the same resource, without what the
cloud reports. Lists that are left out when they are empty, values that are left out when they are
missing, and names that are not known come back as they were read; what is kept of other members
holds no known one, so none is sent twice.

* `Disk.stable`, `Snapshot.stable`, `ScaleSet.stable`, `Instance.stable`, `Deployment.stable`,
  `RecordSet.stable` : the resources one by one;
* `Returns` : that values are read again of the texts that they are sent as;
* `resources_return` : all of them are.
-/
import TenantFleet.Proofs.Json.ReadBack
import TenantFleet.Proofs.Json.Stable
import TenantFleet.Proofs.Resource.Change

namespace TenantFleet

open Json.Written (fits_arr_nil fits_obj_nil)

variable {depth : Nat}

/-! ## Disks and snapshots -/

theorem CreationData.stable : Stable (depth + 1) CreationData.read CreationData.toJson id := by
  refine .closed (by decide) (fun _ => rfl) fun ms c h => ?_
  simp only [Option.bind_eq_bind, Option.bind_eq_some_iff, Option.pure_def, Option.some.injEq] at h
  obtain ⟨option, hoption, source, hsource, rfl⟩ := h
  exact ⟨_, (stable_option.required hoption).cons <| (stable_text.optional hsource).cons .nil,
    fun ms' ⟨h₁, h₂, _⟩ => by simp [h₁, h₂]⟩

/-- The default of where content comes from could have been read. -/
theorem fits_noContent :
    (Json.Written.obj [("creationData", .obj [("createOption", .str "Empty")])]).Fits (depth + 2) :=
  .obj <| List.forall_mem_singleton.2 <| .obj <| List.forall_mem_singleton.2 <| .str _

/-- A disk is read again without its provisioning state. -/
theorem Disk.stable_properties :
    Stable (depth + 2) Disk.readProperties (fun p => Disk.propertiesJson p.1 p.2.1)
    fun p => (p.1, p.2.1, none) := by
  -- The state is a known member that is never sent.
  have hrecord : Stable (depth + 2) Disk.readProperties
      (fun p => .record [("creationData", some p.1.toJson),
      ("diskSizeGB", p.2.1.map .int), ("provisioningState", none)]) fun p =>
        (p.1, p.2.1, none) := by
    refine .closed (by decide) (fun _ => rfl) fun ms p h => ?_
    simp only [Option.bind_eq_bind, Option.bind_eq_some_iff, Option.pure_def,
      Option.some.injEq] at h
    obtain ⟨creation, hcreation, size, hsize, state, -, rfl⟩ := h
    exact ⟨_, (CreationData.stable.required hcreation).cons <| (stable_int32.optional hsize).cons <|
      (back_unsent Reader.text).cons .nil, fun ms' ⟨h₁, h₂, h₃, _⟩ => by simp [h₁, h₂, h₃]⟩
  exact hrecord

theorem Disk.stable : Stable (depth + 3) Disk.read Disk.toJson fun d =>
    { d with provisioningState := none } := by
  refine .closed (by decide) (fun _ => rfl) fun ms d h => ?_
  simp only [Option.bind_eq_bind, Option.bind_eq_some_iff, Option.pure_def, Option.some.injEq] at h
  obtain ⟨id, hid, name, hname, location, hlocation, tags, htags, zones, hzones,
    managedBy, hmanagedBy, ⟨creation, size, state⟩, hp, rfl⟩ := h
  exact ⟨_, (stable_text.optional hid).cons <| (stable_text.optional hname).cons <|
    (stable_text.required hlocation).cons <| (stable_texts.defaulted htags fits_obj_nil rfl).cons <|
    (Stable.nonempty hzones).cons <| (stable_text.optional hmanagedBy).cons <|
    (Disk.stable_properties.defaulted hp fits_noContent rfl).cons .nil,
    fun ms' ⟨h₁, h₂, h₃, h₄, h₅, h₆, h₇, _⟩ => by simp [h₁, h₂, h₃, h₄, h₅, h₆, h₇]⟩

theorem Snapshot.stable_properties : Stable (depth + 2) Snapshot.readProperties
    (fun p => .record [("creationData", some p.1.toJson), ("incremental", p.2.1.map .bool)])
    fun p => (p.1, p.2.1, none) := by
  have hrecord : Stable (depth + 2) Snapshot.readProperties
      (fun p => .record [("creationData", some p.1.toJson),
      ("incremental", p.2.1.map .bool), ("provisioningState", none)]) fun p =>
        (p.1, p.2.1, none) := by
    refine .closed (by decide) (fun _ => rfl) fun ms p h => ?_
    simp only [Option.bind_eq_bind, Option.bind_eq_some_iff, Option.pure_def,
      Option.some.injEq] at h
    obtain ⟨creation, hcreation, incremental, hincremental, state, -, rfl⟩ := h
    exact ⟨_, (CreationData.stable.required hcreation).cons <|
      (stable_bool.optional hincremental).cons <|
      (back_unsent Reader.text).cons .nil, fun ms' ⟨h₁, h₂, h₃, _⟩ => by simp [h₁, h₂, h₃]⟩
  exact hrecord

theorem Snapshot.stable :
    Stable (depth + 3) Snapshot.read Snapshot.toJson fun s =>
      { s with provisioningState := none } := by
  refine .closed (by decide) (fun _ => rfl) fun ms s h => ?_
  simp only [Option.bind_eq_bind, Option.bind_eq_some_iff, Option.pure_def, Option.some.injEq] at h
  obtain ⟨id, hid, name, hname, location, hlocation, tags, htags, ⟨creation, incremental, state⟩,
    hp, rfl⟩ := h
  exact ⟨_, (stable_text.optional hid).cons <| (stable_text.optional hname).cons <|
    (stable_text.required hlocation).cons <| (stable_texts.defaulted htags fits_obj_nil rfl).cons <|
    (Snapshot.stable_properties.defaulted hp fits_noContent rfl).cons .nil,
    fun ms' ⟨h₁, h₂, h₃, h₄, h₅, _⟩ => by simp [h₁, h₂, h₃, h₄, h₅]⟩

/-! ## Scale sets -/

theorem Sku.stable : Stable (depth + 1) Sku.read Sku.toJson id := by
  refine .closed (by decide) (fun _ => rfl) fun ms s h => ?_
  simp only [Option.bind_eq_bind, Option.bind_eq_some_iff, Option.pure_def, Option.some.injEq] at h
  obtain ⟨name, hname, tier, htier, capacity, hcapacity, rfl⟩ := h
  exact ⟨_, (stable_text.optional hname).cons <| (stable_text.optional htier).cons <|
    (stable_int64.optional hcapacity).cons .nil, fun ms' ⟨h₁, h₂, h₃, _⟩ => by simp [h₁, h₂, h₃]⟩

theorem ScaleSet.stable : Stable (depth + 2) ScaleSet.read ScaleSet.toJson fun s => s := by
  refine .closed (by decide) (fun _ => rfl) fun ms s h => ?_
  simp only [Option.bind_eq_bind, Option.bind_eq_some_iff, Option.pure_def, Option.some.injEq] at h
  obtain ⟨id, hid, name, hname, location, hlocation, tags, htags, sku, hsku, zones, hzones,
    properties, hproperties,
    rfl⟩ := h
  exact ⟨_, (stable_text.optional hid).cons <| (stable_text.optional hname).cons <|
    (stable_text.required hlocation).cons <| (stable_texts.defaulted htags fits_obj_nil rfl).cons <|
    (Sku.stable.optional hsku).cons <| (Stable.nonempty hzones).cons <|
    (Stable.kept hproperties).cons .nil,
    fun ms' ⟨h₁, h₂, h₃, h₄, h₅, h₆, h₇, _⟩ => by simp [h₁, h₂, h₃, h₄, h₅, h₆, h₇]⟩

/-! ## Instances -/

theorem DataDisk.stable_reference :
    Stable (depth + 1) DataDisk.readReference DataDisk.referenceJson id := by
  refine .closed (by decide) (fun _ => rfl) fun ms v h => ?_
  exact ⟨_, (stable_text.optional h).cons .nil, fun ms' ⟨h₁, _⟩ => by simp [h₁]⟩

theorem DataDisk.stable : Stable (depth + 2) DataDisk.read DataDisk.toJson id := by
  refine .closed (by decide) (fun _ => rfl) fun ms d h => ?_
  simp only [Option.bind_eq_bind, Option.bind_eq_some_iff, Option.pure_def, Option.some.injEq] at h
  obtain ⟨lun, hlun, name, hname, option, hoption, disk, hdisk, size, hsize, rfl⟩ := h
  exact ⟨_, (stable_int32.required hlun).cons <| (stable_text.optional hname).cons <|
    (stable_option.required hoption).cons <| (DataDisk.stable_reference.optional hdisk).cons <|
    (stable_int32.optional hsize).cons .nil, fun ms' ⟨h₁, h₂, h₃, h₄, h₅, _⟩ => by
    simp [h₁, h₂, h₃, h₄, h₅]⟩

theorem StorageProfile.stable :
    Stable (depth + 4) StorageProfile.read StorageProfile.toJson id := by
  have hrecord : Stable (depth + 4) StorageProfile.read (fun p => .object (p.extra.entries ++
      Json.present [("dataDisks", some (.arr (p.dataDisks.map DataDisk.toJson)))])) id := by
    refine .record true (Or.inr rfl) (by decide) (fun _ => rfl) fun ms p h => ?_
    simp only [Option.bind_eq_bind, Option.bind_eq_some_iff, Option.pure_def,
      Option.some.injEq] at h
    obtain ⟨disks, hdisks, extra, hextra, rfl⟩ := h
    exact ⟨hextra, _, (DataDisk.stable.list.defaulted hdisks fits_arr_nil rfl).cons .nil,
      fun ms' ⟨h₁, _⟩ (hextra' : Reader.others _ ms' = some extra) => by simp [h₁, hextra']⟩
  exact hrecord

/-- The properties of an instance are read again without the state and whether the latest model is
applied. -/
theorem Instance.stable_properties : Stable (depth + 5) Instance.readProperties
    (fun p => Instance.propertiesJson
      { (default : Instance) with storage := p.storage, extra := p.extra })
    fun p => { p with latestModel := none, provisioningState := none } := by
  have hrecord : Stable (depth + 5) Instance.readProperties (fun p => .object (p.extra.entries ++
      Json.present [("latestModelApplied", none), ("provisioningState", none),
        ("storageProfile", p.storage.map StorageProfile.toJson)]))
      fun p => { p with latestModel := none, provisioningState := none } := by
    refine .record true (Or.inr rfl) (by decide) (fun _ => rfl) fun ms p h => ?_
    simp only [Option.bind_eq_bind, Option.bind_eq_some_iff, Option.pure_def,
      Option.some.injEq] at h
    obtain ⟨latest, -, state, -, storage, hstorage, extra, hextra, rfl⟩ := h
    exact ⟨hextra, _, (back_unsent Reader.bool).cons <| (back_unsent Reader.text).cons <|
      (StorageProfile.stable.optional hstorage).cons .nil,
      fun ms' ⟨h₁, h₂, h₃, _⟩ (hextra' : Reader.others _ ms' = some extra) => by
        simp [h₁, h₂, h₃, hextra']⟩
  have hwrite (p : Instance.Properties) :=
    Instance.propertiesJson_eq { (default : Instance) with storage := p.storage, extra := p.extra }
  simp only [hwrite]
  exact hrecord

theorem Instance.stable : Stable (depth + 6) Instance.read Instance.toJson
    fun v => { v with latestModel := none, provisioningState := none } := by
  refine .closed (by decide) (fun _ => rfl) fun ms v h => ?_
  simp only [Option.bind_eq_bind, Option.bind_eq_some_iff, Option.pure_def, Option.some.injEq] at h
  obtain ⟨id, hid, name, hname, inst, hinst, location, hlocation, tags, htags, zones, hzones, sku,
    hsku, p, hp,
    rfl⟩ := h
  exact ⟨_, (stable_text.optional hid).cons <| (stable_text.optional hname).cons <|
    (stable_text.defaulted hinst (.str "") rfl).cons <|
    (stable_text.defaulted hlocation (.str "") rfl).cons <|
    (stable_texts.defaulted htags fits_obj_nil rfl).cons <| (Stable.nonempty hzones).cons <|
    (Sku.stable.optional hsku).cons <|
    (Instance.stable_properties.defaulted hp fits_obj_nil rfl).cons .nil,
    fun ms' ⟨h₁, h₂, h₃, h₄, h₅, h₆, h₇, h₈, _⟩ => by simp [h₁, h₂, h₃, h₄, h₅, h₆, h₇, h₈]⟩

/-! ## Deployments -/

theorem Deployment.stable_properties : Stable (depth + 1) Deployment.readProperties
    (fun p => .record [("mode", some (.str p.1)), ("template", p.2.1), ("parameters", p.2.2.1)])
    fun p => (p.1, p.2.1, p.2.2.1, none) := by
  have hrecord : Stable (depth + 1) Deployment.readProperties
      (fun p => .record [("mode", some (.str p.1)),
      ("template", p.2.1), ("parameters", p.2.2.1), ("provisioningState", none)])
      fun p => (p.1, p.2.1, p.2.2.1, none) := by
    refine .closed (by decide) (fun _ => rfl) fun ms p h => ?_
    simp only [Option.bind_eq_bind, Option.bind_eq_some_iff, Option.pure_def,
      Option.some.injEq] at h
    obtain ⟨mode, hmode, template, htemplate, parameters, hparameters, state, -, rfl⟩ := h
    exact ⟨_, (stable_text.defaulted hmode (.str "Incremental") rfl).cons <|
      (Stable.kept htemplate).cons <|
      (Stable.kept hparameters).cons <| (back_unsent Reader.text).cons .nil,
      fun ms' ⟨h₁, h₂, h₃, h₄, _⟩ => by simp [h₁, h₂, h₃, h₄]⟩
  exact hrecord

theorem Deployment.stable :
    Stable (depth + 2) Deployment.read Deployment.toJson fun d =>
      { d with provisioningState := none } := by
  refine .closed (by decide) (fun _ => rfl) fun ms d h => ?_
  simp only [Option.bind_eq_bind, Option.bind_eq_some_iff, Option.pure_def, Option.some.injEq] at h
  obtain ⟨name, hname, ⟨mode, template, parameters, state⟩, hp, rfl⟩ := h
  exact ⟨_, (stable_text.optional hname).cons <|
    (Deployment.stable_properties.required hp).cons .nil,
    fun ms' ⟨h₁, h₂, _⟩ => by simp [h₁, h₂]⟩

/-! ## Address records -/

theorem RecordSet.stable_address :
    Stable (depth + 1) RecordSet.readAddress RecordSet.addressJson id := by
  refine .closed (by decide) (fun _ => rfl) fun ms address h => ?_
  exact ⟨_, (stable_text.required h).cons .nil, fun ms' ⟨h₁, _⟩ => h₁⟩

theorem RecordSet.stable_properties : Stable (depth + 3) RecordSet.readProperties
    (fun p => .record [("TTL", p.1.map .int),
      ("ARecords", some (.arr (p.2.map RecordSet.addressJson)))]) id := by
  refine .closed (by decide) (fun _ => rfl) fun ms p h => ?_
  simp only [Option.bind_eq_bind, Option.bind_eq_some_iff, Option.pure_def, Option.some.injEq] at h
  obtain ⟨ttl, httl, addresses, haddresses, rfl⟩ := h
  exact ⟨_, (stable_int64.optional httl).cons <|
    (RecordSet.stable_address.list.defaulted haddresses fits_arr_nil rfl).cons .nil,
    fun ms' ⟨h₁, h₂, _⟩ => by simp [h₁, h₂]⟩

theorem RecordSet.stable : Stable (depth + 4) RecordSet.read RecordSet.toJson id := by
  refine .closed (by decide) (fun _ => rfl) fun ms r h => ?_
  simp only [Option.bind_eq_bind, Option.bind_eq_some_iff, Option.pure_def, Option.some.injEq] at h
  obtain ⟨name, hname, etag, hetag, ⟨ttl, addresses⟩, hp, rfl⟩ := h
  exact ⟨_, (stable_text.optional hname).cons <| (stable_text.optional hetag).cons <|
    (RecordSet.stable_properties.defaulted hp fits_obj_nil rfl).cons .nil,
    fun ms' ⟨h₁, h₂, h₃, _⟩ => by simp [h₁, h₂, h₃]⟩

/-! ## Texts of resources -/

/-- Whether values that were read of texts are read again of the texts that they are sent as, but
for what is cleared. -/
structure Returns {α : Type} (read : Reader α) (write : α → Json) (clear : α → α) : Prop where
  /-- A value that was read of a text without floating point numbers is read again, whatever the
  order of members. -/
  again : ∀ {text : String} {x : Json.Written} {v : α} {y : Json},
    Json.Written.parse? text = some x → x.Floatless →
    read x = some v → y.Arrangement (write v) →
    (Json.Written.parse? y.render).bind read = some (clear v)
  /-- No name is twice in what is sent, and the canonical order is one of the orders of members. -/
  sent : ∀ {x : Json.Written} {v : α}, read x = some v → (write v).Arrangement (write v)
  /-- The second document is the first one. -/
  same : ∀ v, write (clear v) = write v

/-- Values that are read again of documents are so of texts, since what is sent of a text is nested
no deeper. -/
theorem Stable.returns {α : Type} {read : Reader α} {write : α → Json} {clear : α → α}
    (s : Stable Json.maxDepth read write clear) (hsame : ∀ v, write (clear v) = write v) :
    Returns read write clear where
  again := by
    intro text x v y htext hfloat hread hy
    -- The depth of the text bounds that of what is sent, in whatever order.
    have hfits : (write v).written.Fits Json.maxDepth :=
      s.fits hread (Json.Written.fits_of_parse? htext hfloat) (Nat.le_refl _)
    rw [← hy.canonical_eq] at hfits
    rw [Json.Written.readBack_render (hy.distinct.fits hfits), Option.bind_some]
    exact s.again hread hy
  sent := fun hread => (s.sorted hread).arrangement
  same := hsame

/-- Whether the members that an instance is sent with have different names where others are kept
besides the known ones. -/
structure Instance.Unrepeated (v : Instance) : Prop where
  properties : ((v.extra.entries ++ Json.present v.knownProperties).map Prod.fst).Nodup
  storage : ∀ p, v.storage = some p → ((p.extra.entries ++
    Json.present [("dataDisks", some (.arr (p.dataDisks.map DataDisk.toJson)))]).map Prod.fst).Nodup

/-- What was kept of an instance that was read repeats no known member. -/
theorem Instance.Separated.unrepeated {v : Instance} (h : v.Separated) : v.Unrepeated where
  properties := by
    have hknown : Json.present v.knownProperties =
        Json.present [("storageProfile", v.storage.map StorageProfile.toJson)] := rfl
    rw [hknown]
    exact nodup_sent (by simp) (List.forall_mem_singleton.2 h.storage)
  storage := fun p hp => nodup_sent (by simp) (List.forall_mem_singleton.2 (h.dataDisks p hp))

/-- **Resources are read again as they were read.** Disks, snapshots, scale sets, instances,
deployments and record sets that were read of texts are read again of the texts that they are sent
as, without the provisioning state and without whether the latest model is applied; then they are
sent as the same documents. No name is twice in these, and of what is kept of an instance none
repeats a known member. -/
theorem resources_return :
    Returns Disk.read Disk.toJson (fun d => { d with provisioningState := none }) ∧
    Returns Snapshot.read Snapshot.toJson (fun s => { s with provisioningState := none }) ∧
    Returns ScaleSet.read ScaleSet.toJson (fun s => s) ∧
    Returns Instance.read Instance.toJson
      (fun v => { v with latestModel := none, provisioningState := none }) ∧
    Returns Deployment.read Deployment.toJson (fun d => { d with provisioningState := none }) ∧
    Returns RecordSet.read RecordSet.toJson (fun r => r) ∧
    ∀ {x : Json.Written} {v : Instance}, Instance.read x = some v → v.Unrepeated := by
  refine ⟨?disk, ?snapshot, ?scaleSet, ?machine, ?deployment, ?recordSet, ?unrepeated⟩
  case disk => exact Disk.stable.returns fun _ => rfl
  case snapshot => exact Snapshot.stable.returns fun _ => rfl
  case scaleSet => exact ScaleSet.stable.returns fun _ => rfl
  case machine => exact Instance.stable.returns fun _ => rfl
  case deployment => exact Deployment.stable.returns fun _ => rfl
  case recordSet => exact RecordSet.stable.returns fun _ => rfl
  case unrepeated => exact fun h => (Instance.separated_of_read h).unrepeated

namespace Reported

/-- An instance without a name, with a property that is not known and one that the cloud reports. -/
def document : Json :=
  .obj [("zones", .arr []), ("name", .null), ("instanceId", .str "0"),
    ("properties", .obj [("provisioningState", .str "Succeeded"), ("priority", .str "Spot"),
      ("storageProfile",
        .obj [("dataDisks", .arr [.obj [("lun", .int 1), ("createOption", .str "Restore")]])])])]

/-- What is read of it. -/
def machine : Instance :=
  { instanceId := "0", provisioningState := some "Succeeded",
    storage := some { dataDisks := [{ lun := 1, createOption := .unknown }] },
    extra := Dict.ofList [("priority", .str "Spot")] }

theorem read_document : Instance.read document.written = some machine := by decide

theorem parse_document : Json.Written.parse? document.render = some document.written := by
  have hvalue : Json.parse? document.render = some document := by decide +kernel
  obtain ⟨x, hx, hdocument⟩ := Option.bind_eq_some_iff.1 hvalue
  rw [hx, Json.written_of_value? x hdocument]

theorem floatless_document : document.written.Floatless := by
  have hdisk :
      Json.Written.Floatless (.obj [("lun", .num (.int 1)), ("createOption", .str "Restore")]) :=
    .obj <| List.forall_mem_cons.2 ⟨.int 1, List.forall_mem_singleton.2 (.str _)⟩
  have hstorage : Json.Written.Floatless (.obj [("dataDisks", .arr [_])]) :=
    .obj <| List.forall_mem_singleton.2 <| .arr <| List.forall_mem_singleton.2 hdisk
  have hproperties : Json.Written.Floatless
      (.obj [("provisioningState", .str "Succeeded"), ("priority", .str "Spot"),
        ("storageProfile", _)]) :=
    .obj <| List.forall_mem_cons.2
      ⟨.str _, List.forall_mem_cons.2 ⟨.str _, List.forall_mem_singleton.2 hstorage⟩⟩
  exact .obj <| List.forall_mem_cons.2 ⟨.arr fun _ hx => absurd hx List.not_mem_nil,
    List.forall_mem_cons.2 ⟨.null,
    List.forall_mem_cons.2 ⟨.str _, List.forall_mem_singleton.2 hproperties⟩⟩⟩

end Reported

/-- Of the instance above all comes back but the provisioning state. -/
theorem resources_return_reported :
    Json.Written.parse? Reported.document.render = some Reported.document.written ∧
      Instance.read Reported.document.written = some Reported.machine ∧
      (Json.Written.parse? Reported.machine.toJson.render).bind Instance.read =
        some { Reported.machine with provisioningState := none } ∧
      Reported.machine.toJson.Distinct ∧ Reported.machine.Unrepeated :=
  have ⟨_, _, _, hreturns, _, _, hunrepeated⟩ := resources_return
  ⟨Reported.parse_document, Reported.read_document,
    hreturns.again Reported.parse_document Reported.floatless_document Reported.read_document
      (hreturns.sent Reported.read_document),
    (hreturns.sent Reported.read_document).distinct, hunrepeated Reported.read_document⟩

end TenantFleet
