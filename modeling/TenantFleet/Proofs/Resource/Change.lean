/-
# Changes of resources in their documents

A pass changes a resource that it has read in few places: the capacity and the autoscaler tag of a
scale set, a data disk behind the others of an instance, the tags of a disk, the addresses of a
record set. The document of the resource changes at these places and nowhere else.

* `changed_resize`, `changed_attach`, `changed_untag`, `changed_addresses` : the changes one by one.
-/
import TenantFleet.Workers.Scale
import TenantFleet.Proofs.Resource.Form

namespace TenantFleet

open Json (SetAt Changed Step)

/-! ## Scale sets -/

/-- The capacity of a scale set. -/
def ScaleSet.capacityPlace : List Step := [.member "sku", .member "capacity"]

/-- A tag of a resource. -/
def tagPlace (key : String) : List Step := [.member "tags", .member key]

theorem Sku.setAt_capacity (s : Sku) (capacity : Int) :
    SetAt [.member "capacity"] (.int capacity) (some s.toJson)
      (some { s with capacity := some capacity }.toJson) :=
  .record [_, _] [] (by simp) (by simp) (.whole _ _)

theorem ScaleSet.setAt_capacity (s : ScaleSet) (capacity : Int) :
    SetAt capacityPlace (.int capacity) (some s.toJson)
      (some { s with sku := some { s.sku.getD {} with capacity := some capacity } }.toJson) := by
  have hsku : SetAt [.member "capacity"] (.int capacity) (s.sku.map Sku.toJson)
      (some { s.sku.getD {} with capacity := some capacity }.toJson) := by
    cases s.sku with
    -- A size that is not known is made for the capacity.
    | none => exact .of_noMembers (Sku.setAt_capacity {} capacity)
    | some k => exact k.setAt_capacity capacity
  exact .record [_, _, _, _] [_, _] (by simp) (by simp) hsku

theorem ScaleSet.setAt_tag (s : ScaleSet) (key value : String) :
    SetAt (tagPlace key) (.str value) (some s.toJson)
      (some { s with tags := s.tags.insert key value }.toJson) :=
  .record [_, _, _] [_, _, _] (by simp) (by simp) (.insert s.tags key value)

/-- Changing the capacity changes it and the autoscaler tag. -/
theorem Workers.changed_resize (s : ScaleSet) (capacity : Int) (autoscaler : Bool) :
    Changed [(ScaleSet.capacityPlace, .int capacity),
        (tagPlace Tag.autoscalerEnabled, .str (if autoscaler then "true" else "false"))]
      s.toJson (resize s capacity autoscaler).toJson :=
  .two (s.setAt_capacity capacity) (ScaleSet.setAt_tag _ Tag.autoscalerEnabled _) (by decide)

/-! ## Instances -/

/-- Whether no member that is known stands among the others. -/
structure Instance.Separated (v : Instance) : Prop where
  storage : v.extra.get? "storageProfile" = none
  dataDisks : ∀ p, v.storage = some p → p.extra.get? "dataDisks" = none

/-- The storage that is read has the data disks apart from the others. -/
theorem StorageProfile.get?_of_read {x : Json.Written} {p : StorageProfile} (h : read x = some p) :
    p.extra.get? "dataDisks" = none := by
  simp only [read, Option.bind_eq_bind, Option.bind_eq_some_iff, Option.pure_def,
    Option.some.injEq] at h
  obtain ⟨ms, -, disks, -, extra, hextra, rfl⟩ := h
  exact Reader.get?_others hextra (by decide)

/-- An instance that is read has what is known apart from the others. -/
theorem Instance.separated_of_read {x : Json.Written} {v : Instance}
    (h : read x = some v) : v.Separated := by
  simp only [read, Option.bind_eq_bind, Option.bind_eq_some_iff, Option.pure_def,
    Option.some.injEq] at h
  obtain ⟨ms, -, id, -, name, -, inst, -, location, -, tags, -, zones, -, sku, -, p, hp, rfl⟩ := h
  unfold Reader.defaulted at hp
  split at hp
  · obtain rfl := Option.some.inj hp
    exact ⟨rfl, fun p hp => by cases hp⟩
  · simp only [readProperties, Option.bind_eq_bind, Option.bind_eq_some_iff, Option.pure_def,
      Option.some.injEq] at hp
    obtain ⟨ms, -, latest, -, state, -, storage, hstorage, extra, hextra, rfl⟩ := hp
    refine ⟨Reader.get?_others hextra (by decide), fun p hp => ?_⟩
    obtain rfl : storage = some p := hp
    rcases Reader.optional_cases hstorage with ⟨-, h⟩ | ⟨-, h⟩ | ⟨y, q, -, -, hread, h⟩
    · cases h
    · cases h
    · obtain rfl := Option.some.inj h
      exact StorageProfile.get?_of_read hread

/-- A place among the data disks of an instance. -/
def Instance.diskPlace (i : Nat) : List Step :=
  [.member "properties", .member "storageProfile", .member "dataDisks", .item i]

/-- The disk that an instance is given. -/
def DataDisk.attached (lun : Int) (name diskId : String) : DataDisk :=
  { lun := lun, name := some name, createOption := .attach, managedDisk := some (some diskId) }

/-- Storage with a data disk behind the others. -/
theorem StorageProfile.setAt_dataDisks {p : StorageProfile} (hp : p.extra.get? "dataDisks" = none)
    (d : DataDisk) :
    SetAt [.member "dataDisks", .item p.dataDisks.length] d.toJson (some p.toJson)
      (some { p with dataDisks := p.dataDisks ++ [d] }.toJson) := by
  rw [toJson_eq, toJson_eq, List.map_append]
  have hconcat := SetAt.concat (p.dataDisks.map DataDisk.toJson) d.toJson
  rw [List.length_map] at hconcat
  exact .member _ [] [] (Dict.valuesOf_eq_nil hp) (by simp) (by simp) hconcat

theorem Instance.setAt_attach {v : Instance} (hv : v.Separated) (lun : Int) (name diskId : String) :
    SetAt [.member "dataDisks", .item v.dataDisks.length] (DataDisk.attached lun name diskId).toJson
      (v.storage.map StorageProfile.toJson)
      ((v.attach lun name diskId).storage.map StorageProfile.toJson) := by
  unfold dataDisks attach
  cases hstorage : v.storage with
  | none =>
    -- There is no storage yet, so it is made with an empty list first.
    let d := (DataDisk.attached lun name diskId).toJson
    have hfirst : SetAt [.member "dataDisks", .item 0] d (some (.record [("dataDisks", none)]))
        (some (.record [("dataDisks", some (.arr [d]))])) :=
      .record [] [] (by simp) (by simp) (.of_noItems (.concat [] d))
    exact .of_noMembers hfirst
  | some p => exact StorageProfile.setAt_dataDisks (hv.dataDisks p hstorage) _

theorem Instance.setAt_properties {v w : Instance} {c : List Step} {x : Json} (hv : v.Separated)
    (hw : w.extra = v.extra)
    (h : SetAt c x (v.storage.map StorageProfile.toJson) (w.storage.map StorageProfile.toJson)) :
    SetAt (.member "storageProfile" :: c) x (some v.propertiesJson) (some w.propertiesJson) := by
  rw [propertiesJson_eq, propertiesJson_eq, hw]
  exact .member _ [_, _] [] (Dict.valuesOf_eq_nil hv.storage) (by simp) (by simp) h

/-- Attaching a disk changes the place behind the other disks. -/
theorem Instance.changed_attach {v : Instance} (hv : v.Separated) (lun : Int)
    (name diskId : String) :
    Changed [(diskPlace v.dataDisks.length, (DataDisk.attached lun name diskId).toJson)] v.toJson
      (v.attach lun name diskId).toJson :=
  .one (.record [_, _, _, _, _, _, _] [] (by simp) (by simp)
    (setAt_properties hv rfl (setAt_attach hv lun name diskId)))

/-! ## Disks -/

/-- The tags of a resource. -/
def tagsPlace : List Step := [.member "tags"]

/-- Taking the tags off a disk changes these. -/
theorem Disk.changed_untag (d : Disk) :
    Changed [(tagsPlace, .obj [])] d.toJson { d with tags := .empty }.toJson :=
  .one (.record [_, _, _] [_, _, _] (by simp) (by simp) (.whole _ _))

/-! ## Address records -/

/-- The addresses of a record set. -/
def RecordSet.addressesPlace : List Step := [.member "properties", .member "ARecords"]

/-- Giving a record set other addresses changes these. -/
theorem RecordSet.changed_addresses (r : RecordSet) (addresses : List String) :
    Changed [(addressesPlace, .arr (addresses.map addressJson))] r.toJson
      { r with addresses := addresses }.toJson :=
  .one (.record [_, _] [] (by simp) (by simp) (.record [_] [] (by simp) (by simp) (.whole _ _)))

end TenantFleet
