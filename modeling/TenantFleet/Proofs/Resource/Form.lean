/-
# What is sent back of resources

The forms of the resources that are read, changed and stored again. Other members than the known
ones are kept in the storage and the properties of an instance, and a scale set keeps its properties
as a whole; everywhere else they are not sent back.

* `ScaleSet.keeps`, `Instance.keeps`, `Disk.keeps`, `RecordSet.keeps` : these resources are sent
  back in their forms.
-/
import TenantFleet.Resource.Network
import TenantFleet.Proofs.Json.Form

namespace TenantFleet

open Form

/-! ## Scale sets -/

/-- What is sent back of a machine size. -/
def Sku.form : Form :=
  .record [("name", .optional .kept), ("tier", .optional .kept), ("capacity", .optional .kept)]
    false true

theorem Sku.keeps : Sku.form.Keeps Sku.read Sku.toJson := by
  intro x s h
  simp only [Sku.read, Option.bind_eq_bind, Option.bind_eq_some_iff, Option.pure_def,
    Option.some.injEq] at h
  obtain ⟨ms, hms, name, hname, tier, htier, capacity, hcapacity, rfl⟩ := h
  refine carries_closed hms (.cons (keeps_text.optional hname) <|
    .cons (keeps_text.optional htier) <|
    .cons ((keeps_int _ _).optional hcapacity) .nil) (by decide) ?_
  rintro rfl
  simp_all

/-- What is sent back of the availability zones. -/
def zonesForm : Form := .nonempty (.items .kept)

/-- What is sent back of a scale set. -/
def ScaleSet.form : Form :=
  .record [("id", .optional .kept), ("name", .optional .kept), ("location", .kept), ("tags", .kept),
    ("sku", .optional Sku.form), ("zones", zonesForm), ("properties", .optional .kept)] false false

theorem ScaleSet.keeps : ScaleSet.form.Keeps ScaleSet.read ScaleSet.toJson := by
  intro x s h
  simp only [ScaleSet.read, Option.bind_eq_bind, Option.bind_eq_some_iff, Option.pure_def,
    Option.some.injEq] at h
  obtain ⟨ms, hms, id, hid, name, hname, location, hlocation, tags, htags, sku, hsku, zones, hzones,
    properties, hproperties, rfl⟩ := h
  have hkept := keeps_any.optional hproperties
  rw [Option.map_id] at hkept
  exact carries_closed hms (.cons (keeps_text.optional hid) <| .cons (keeps_text.optional hname) <|
    .cons (keeps_text.required hlocation) <| .cons (keeps_texts.defaulted htags) <|
    .cons (Sku.keeps.optional hsku) <| .cons (keeps_text.items.nonempty hzones) <|
    .cons hkept .nil) (by decide) fun _ => by simp

/-! ## Instances -/

namespace DataDisk

/-- What is sent back of a reference. -/
def referenceForm : Form := .record [("id", .optional .kept)] false true

theorem keeps_reference : referenceForm.Keeps readReference referenceJson := by
  intro x id h
  simp only [readReference, Option.bind_eq_bind, Option.bind_eq_some_iff] at h
  obtain ⟨ms, hms, hid⟩ := h
  refine carries_closed hms (.cons (keeps_text.optional hid) .nil) (by decide) ?_
  rintro rfl
  simp_all

/-- What is sent back of a data disk. -/
def form : Form :=
  .record [("lun", .kept), ("name", .optional .kept), ("createOption", .option),
    ("managedDisk", .optional referenceForm), ("diskSizeGB", .optional .kept)] false false

theorem keeps : form.Keeps read toJson := by
  intro x d h
  simp only [read, Option.bind_eq_bind, Option.bind_eq_some_iff, Option.pure_def,
    Option.some.injEq] at h
  obtain ⟨ms, hms, lun, hlun, name, hname, option, hoption, disk, hdisk, size, hsize, rfl⟩ := h
  exact carries_closed hms (.cons ((keeps_int _ _).required hlun) <|
    .cons (keeps_text.optional hname) <|
    .cons (keeps_option.required hoption) <| .cons (keeps_reference.optional hdisk) <|
    .cons ((keeps_int _ _).optional hsize) .nil) (by decide) fun _ => by simp

end DataDisk

namespace StorageProfile

/-- What is sent back of the storage of an instance. -/
def form : Form := .record [("dataDisks", .items DataDisk.form)] true false

/-- The storage of an instance is the others and the data disks. -/
theorem toJson_eq (p : StorageProfile) :
    p.toJson = .object (p.extra.entries ++
      Json.present [("dataDisks", some (.arr (p.dataDisks.map DataDisk.toJson)))]) :=
  rfl

theorem keeps : form.Keeps read toJson := by
  intro x p h
  simp only [read, Option.bind_eq_bind, Option.bind_eq_some_iff, Option.pure_def,
    Option.some.injEq] at h
  obtain ⟨ms, hms, disks, hdisks, extra, hextra, rfl⟩ := h
  have hmembers := Reader.members_of_namedMembers hms
  rw [toJson_eq]
  exact carries_record hmembers (.cons (DataDisk.keeps.items.defaulted hdisks) .nil)
    (by decide) hextra
    fun _ => by simp

end StorageProfile

namespace Instance

/-- The members of the properties of an instance that are known and present. -/
def knownProperties (v : Instance) : List (String × Option Json) :=
  [("latestModelApplied", none), ("provisioningState", none),
    ("storageProfile", v.storage.map StorageProfile.toJson)]

/-- The properties of an instance are the others and the known ones. -/
theorem propertiesJson_eq (v : Instance) :
    v.propertiesJson = .object (v.extra.entries ++ Json.present v.knownProperties) := by
  unfold propertiesJson knownProperties
  cases v.storage <;> rfl

/-- What is sent back of the properties of an instance. -/
def propertiesForm : Form :=
  .record [("latestModelApplied", .unsent), ("provisioningState", .unsent),
    ("storageProfile", .optional StorageProfile.form)] true true

/-- The properties that an instance was read with. -/
theorem keeps_properties :
    propertiesForm.Keeps readProperties fun p =>
      propertiesJson { (default : Instance) with storage := p.storage, extra := p.extra } := by
  intro x p h
  simp only [readProperties, Option.bind_eq_bind, Option.bind_eq_some_iff, Option.pure_def,
    Option.some.injEq] at h
  obtain ⟨ms, hms, latest, hlatest, state, hstate, storage, hstorage, extra, hextra, rfl⟩ := h
  have hmembers := Reader.members_of_namedMembers hms
  show propertiesForm.Carries (some x) (some (propertiesJson _))
  rw [propertiesJson_eq]
  refine carries_record hmembers (.cons (carries_unsent _) <|
    .cons (carries_unsent _) <| .cons (StorageProfile.keeps.optional hstorage) .nil)
      (by decide) hextra ?_
  rintro rfl
  simp_all [knownProperties]

/-- What is sent back of an instance. -/
def form : Form :=
  .record [("id", .optional .kept), ("name", .optional .kept), ("instanceId", .kept),
    ("location", .kept), ("tags", .kept), ("zones", zonesForm), ("sku", .optional Sku.form),
    ("properties", propertiesForm)] false false

theorem keeps : form.Keeps read toJson := by
  intro x v h
  simp only [read, Option.bind_eq_bind, Option.bind_eq_some_iff, Option.pure_def,
    Option.some.injEq] at h
  obtain ⟨ms, hms, id, hid, name, hname, inst, hinst, location, hlocation, tags, htags,
    zones, hzones, sku, hsku, p, hp, rfl⟩ := h
  exact carries_closed hms (.cons (keeps_text.optional hid) <| .cons (keeps_text.optional hname) <|
    .cons (keeps_text.defaulted hinst) <| .cons (keeps_text.defaulted hlocation) <|
    .cons (keeps_texts.defaulted htags) <| .cons (keeps_text.items.nonempty hzones) <|
    .cons (Sku.keeps.optional hsku) <| .cons (keeps_properties.defaulted hp) .nil) (by decide)
    fun _ => by simp

/-- How a data disk is cached is lost, and a way to make it that is not known is sent back as
another one. -/
example : let disk : List Json.Step :=
      [.member "properties", .member "storageProfile", .member "dataDisks", .item 0]
    form.sends (disk ++ [.member "caching"]) (.str "ReadOnly") = none ∧
      form.sends (disk ++ [.member "createOption"]) (.str "Restore") = some (.str "Unknown") := by
  decide

end Instance

/-! ## Disks -/

/-- What is sent back of where content comes from. -/
def CreationData.form : Form :=
  .record [("createOption", .option), ("sourceResourceId", .optional .kept)] false false

theorem CreationData.keeps : CreationData.form.Keeps CreationData.read CreationData.toJson := by
  intro x c h
  simp only [CreationData.read, Option.bind_eq_bind, Option.bind_eq_some_iff, Option.pure_def,
    Option.some.injEq] at h
  obtain ⟨ms, hms, option, hoption, source, hsource, rfl⟩ := h
  exact carries_closed hms (.cons (keeps_option.required hoption) <|
    .cons (keeps_text.optional hsource) .nil) (by decide) fun _ => by simp

namespace Disk

/-- The document of the properties of a disk. -/
def propertiesJson (creation : CreationData) (sizeGB : Option Int) : Json :=
  .record [("creationData", some creation.toJson), ("diskSizeGB", sizeGB.map .int)]

/-- What is sent back of the properties of a disk. -/
def propertiesForm : Form :=
  .record [("creationData", CreationData.form), ("diskSizeGB", .optional .kept),
    ("provisioningState", .unsent)] false false

theorem keeps_properties :
    propertiesForm.Keeps readProperties fun p => propertiesJson p.1 p.2.1 := by
  intro x p h
  simp only [readProperties, Option.bind_eq_bind, Option.bind_eq_some_iff, Option.pure_def,
    Option.some.injEq] at h
  obtain ⟨ms, hms, creation, hcreation, size, hsize, state, hstate, rfl⟩ := h
  show propertiesForm.Carries (some x) (some (.record _))
  rw [← Json.record_concat_none "provisioningState"]
  exact carries_closed hms (.cons (CreationData.keeps.required hcreation) <|
    .cons ((keeps_int _ _).optional hsize) <| .cons (carries_unsent _) .nil) (by decide)
    fun _ => by simp

/-- What is sent back of a disk. -/
def form : Form :=
  .record [("id", .optional .kept), ("name", .optional .kept), ("location", .kept), ("tags", .kept),
    ("zones", zonesForm), ("managedBy", .optional .kept), ("properties", propertiesForm)] false
      false

theorem keeps : form.Keeps read toJson := by
  intro x d h
  simp only [read, Option.bind_eq_bind, Option.bind_eq_some_iff, Option.pure_def,
    Option.some.injEq] at h
  obtain ⟨ms, hms, id, hid, name, hname, location, hlocation, tags, htags, zones, hzones, managedBy,
    hmanagedBy, ⟨creation, size, state⟩, hp, rfl⟩ := h
  have hproperties := keeps_properties.defaulted hp
  exact carries_closed hms (.cons (keeps_text.optional hid) <| .cons (keeps_text.optional hname) <|
    .cons (keeps_text.required hlocation) <| .cons (keeps_texts.defaulted htags) <|
    .cons (keeps_text.items.nonempty hzones) <| .cons (keeps_text.optional hmanagedBy) <|
    .cons hproperties .nil) (by decide) fun _ => by simp

end Disk

/-! ## Address records -/

namespace RecordSet

/-- What is sent back of an address. -/
def addressForm : Form := .record [("ipv4Address", .kept)] false false

/-- The document of an address. -/
def addressJson (address : String) : Json := .record [("ipv4Address", some (.str address))]

theorem keeps_address : addressForm.Keeps readAddress addressJson := by
  intro x address h
  simp only [readAddress, Option.bind_eq_bind, Option.bind_eq_some_iff] at h
  obtain ⟨ms, hms, haddress⟩ := h
  exact carries_closed hms (.cons (keeps_text.required haddress) .nil) (by decide) fun _ => by simp

/-- What is sent back of the properties of a record set. -/
def propertiesForm : Form :=
  .record [("TTL", .optional .kept), ("ARecords", .items addressForm)] false false

theorem keeps_properties :
    propertiesForm.Keeps readProperties fun p => .record [("TTL", p.1.map .int),
      ("ARecords", some (.arr (p.2.map addressJson)))] := by
  intro x p h
  simp only [readProperties, Option.bind_eq_bind, Option.bind_eq_some_iff, Option.pure_def,
    Option.some.injEq] at h
  obtain ⟨ms, hms, ttl, httl, addresses, haddresses, rfl⟩ := h
  exact carries_closed hms (.cons ((keeps_int _ _).optional httl) <|
    .cons (keeps_address.items.defaulted haddresses) .nil) (by decide) fun _ => by simp

/-- What is sent back of a record set. -/
def form : Form :=
  .record [("name", .optional .kept), ("etag", .optional .kept),
    ("properties", propertiesForm)] false false

theorem keeps : form.Keeps read toJson := by
  intro x r h
  simp only [read, Option.bind_eq_bind, Option.bind_eq_some_iff, Option.pure_def,
    Option.some.injEq] at h
  obtain ⟨ms, hms, name, hname, etag, hetag, ⟨ttl, addresses⟩, hp, rfl⟩ := h
  exact carries_closed hms (.cons (keeps_text.optional hname) <|
    .cons (keeps_text.optional hetag) <|
    .cons (keeps_properties.defaulted hp) .nil) (by decide) fun _ => by simp

end RecordSet

end TenantFleet
