/-
# What disks and snapshots hold

Nothing in a subscription says what is on a disk. `Contents` say it from outside, by the IDs of the
resources: an update of a disk keeps what it holds, a copy holds what its source holds when it is
made, and anything else holds what it is made with. They follow the calls of a pass, so what becomes
of the data can be told at every moment.

* `World.withContents` : a world in memory with the contents beside it;
* `World.unsteady` : the same, where every call may fail and others are at work;
* `Kept` : that a disk still holds its data, or that a snapshot of it does;
* `Kept.putDisk`, `Kept.putSnapshot`, `Kept.deleteDisk`, `Kept.deleteSnapshot` : when a request
  keeps that.
-/
import TenantFleet.Etcd.Disks
import TenantFleet.Proofs.Program.Path
import TenantFleet.Proofs.World.Labels

namespace TenantFleet

variable {κ : Type}

/-! ## Contents -/

/-- What the disks and snapshots hold, by their IDs. -/
abbrev Contents (κ : Type) := String → κ

/-- Whether some disk or snapshot has an ID. -/
def Subscription.hasResource (s : Subscription) (id : String) : Prop :=
  (∃ d ∈ s.disks.values, d.id = some id) ∨ ∃ x ∈ s.snapshots.values, x.id = some id

instance (s : Subscription) (id : String) : Decidable (s.hasResource id) :=
  inferInstanceAs (Decidable (_ ∨ _))

namespace Contents

/-- What a new resource holds: a copy what its source holds, anything else what it is made with. -/
def made (fresh : CreationData → κ) (s : Subscription) (k : Contents κ) (data : CreationData) : κ :=
  match data.option, data.source with
  | .copy, some id => if s.hasResource id then k id else fresh data
  | _, _ => fresh data

/-- The contents with that of one resource set. -/
def set (k : Contents κ) (id : String) (content : κ) : Contents κ :=
  fun id' => if id' = id then content else k id'

@[simp] theorem set_self (k : Contents κ) (id : String) (content : κ) :
    k.set id content id = content :=
  if_pos rfl

/-- The contents of other resources stay. -/
theorem set_of_ne (k : Contents κ) {id id' : String} (content : κ) (h : id' ≠ id) :
    k.set id content id' = k id' :=
  if_neg h

/-- The contents after a request that was answered. -/
def after (fresh : CreationData → κ) (s : Subscription) (group : String) (c : CloudCall)
    (k : Contents κ) :
    Contents κ :=
  match c with
  | .putDisk name value =>
    match s.disks.get? name with
    | some _ => k
    | none => k.set (diskId s.id group name) (made fresh s k value.creation)
  | .putSnapshot name value => k.set (s.snapshotId group name) (made fresh s k value.creation)
  | _ => k

/-- An update of a disk keeps what it holds. -/
theorem after_putDisk_of_some (fresh : CreationData → κ) {s : Subscription} (group : String)
    {name : String} {d : Disk} (value : Disk) (k : Contents κ) (h : s.disks.get? name = some d) :
    k.after fresh s group (.putDisk name value) = k := by
  simp only [after, h]

/-- A new disk holds what it is made from. -/
theorem after_putDisk_of_none (fresh : CreationData → κ) {s : Subscription} (group : String)
    {name : String} (value : Disk) (k : Contents κ) (h : s.disks.get? name = none) :
    k.after fresh s group (.putDisk name value) =
      k.set (diskId s.id group name) (made fresh s k value.creation) := by
  simp only [after, h]

/-- The contents after a call in a world; a call that fails changes none. -/
def follow (fresh : CreationData → κ) (c : Call) (w : World) (r : Except c.Failure c.Answer)
    (k : Contents κ) : Contents κ :=
  match c, r with
  | .cloud (.cluster _) group c, .ok _ => k.after fresh w.cluster group c
  | _, _ => k

/-- A copy of a resource that is there holds what it holds. -/
theorem made_copy (fresh : CreationData → κ) {s : Subscription} (k : Contents κ) {id : String}
    (h : s.hasResource id) : made fresh s k ⟨.copy, some id⟩ = k id :=
  if_pos h

/-- A call that is a frame changes no contents. -/
theorem follow_of_keepsLabels (fresh : CreationData → κ) {c : Call} (hc : c.keepsLabels) (w : World)
    (r : Except c.Failure c.Answer) (k : Contents κ) : k.follow fresh c w r = k := by
  unfold follow
  split
  · rename_i c _
    cases c with
    | putDisk name value => exact hc.elim
    | putSnapshot name value => exact hc.elim
    | _ => rfl
  · rfl

/-- Writing a request down does not change what it does to the contents. -/
theorem follow_logged (fresh : CreationData → κ) (secret : SecretRef) (group : String)
    (c : CloudCall) (w : World) (r : Except AzureError c.Answer) (k : Contents κ) :
    follow fresh (.cloud (.cluster secret) group c) w r k =
      follow fresh (.cloud (.cluster secret) group c)
        { w with cluster := w.cluster.logged c } r k := by
  cases r with
  | ok a => cases c <;> rfl
  | error e => rfl

end Contents

/-! ## Worlds with contents -/

namespace World

/-- A world in memory with the contents beside it. -/
def withContents (fresh : CreationData → κ) : Handler (World × Contents κ) :=
  handler.watch (Contents.follow fresh)

/-- What others may do meanwhile: all but make, delete, relabel or fill disks and snapshots. -/
def Elsewhere (σ σ' : World × Contents κ) : Prop :=
  Subscription.SameLabels σ.1.cluster σ'.1.cluster ∧ σ'.2 = σ.2

namespace Elsewhere

variable {σ σ' σ'' : World × Contents κ}

theorem refl (σ : World × Contents κ) : Elsewhere σ σ := ⟨.refl _, rfl⟩

theorem trans (h : Elsewhere σ σ') (h' : Elsewhere σ' σ'') : Elsewhere σ σ'' :=
  ⟨h.1.trans h'.1, h'.2.trans h.2⟩

end Elsewhere

/-- A world with contents where every call may fail, before or after its effect, and others are
at work. -/
def unsteady (fresh : CreationData → κ) : Surroundings (World × Contents κ) :=
  (withContents fresh).faulty.amid Elsewhere

variable {fresh : CreationData → κ}

/-- A call that is a frame does what others may do as well. -/
theorem elsewhere_of_answers {c : Call} {σ σ' : World × Contents κ} {r : Except c.Failure c.Answer}
    (hc : c.keepsLabels) (turn : (unsteady fresh).answers c σ r σ') : Elsewhere σ σ' := by
  obtain ⟨σ₁, move, turn⟩ := turn
  -- The effect of the call, if it has one.
  have heffect : Elsewhere σ₁ ((withContents fresh).answer c σ₁).2 :=
    ⟨σ₁.1.sameLabels_answer hc, Contents.follow_of_keepsLabels fresh hc _ _ _⟩
  cases turn with
  | answered => exact move.trans heffect
  | lost e => exact move
  | cut e => exact move.trans heffect

/-- How a request to the subscription of the cluster turns out: it fails and does no more than
others may do, or it is performed after what others did, and is then answered or not. -/
theorem cases_of_answers {secret : SecretRef} {group : String} {c : CloudCall}
    {σ σ' : World × Contents κ} {r : Except AzureError c.Answer}
    (turn : (unsteady fresh).answers (.cloud (.cluster secret) group c) σ r σ') :
    ((∃ e, r = .error e) ∧ Elsewhere σ σ') ∨
      ∃ σ₁, Elsewhere σ σ₁ ∧ σ'.1.cluster = (σ₁.1.cluster.perform group c).2 ∧
        σ'.2 = Contents.follow fresh (.cloud (.cluster secret) group c) σ₁.1
          (σ₁.1.cluster.perform group c).1 σ₁.2 ∧
        (r = (σ₁.1.cluster.perform group c).1 ∨ ∃ e, r = .error e) := by
  obtain ⟨σ₁, move, turn⟩ := turn
  -- The state that the request finds, once it is written down.
  let σ₂ : World × Contents κ := ({ σ₁.1 with cluster := σ₁.1.cluster.logged c }, σ₁.2)
  have hmove : Elsewhere σ σ₂ := move.trans ⟨σ₁.1.cluster.sameLabels_logged c, rfl⟩
  have hanswer : (withContents fresh).answer (.cloud (.cluster secret) group c) σ₁ =
      ((σ₁.1.cluster.answer group c).1, { σ₁.1 with cluster := (σ₁.1.cluster.answer group c).2 },
        Contents.follow fresh (.cloud (.cluster secret) group c) σ₁.1
          (σ₁.1.cluster.answer group c).1
          σ₁.2) := rfl
  rcases σ₁.1.cluster.answer_cases group c with ⟨e, h⟩ | h
  · -- The failure was asked for.
    rw [h] at hanswer
    left
    obtain ⟨hr, rfl⟩ | ⟨hr, rfl | rfl⟩ := turn.cases
    · rw [hanswer] at hr ⊢
      exact ⟨⟨e, hr⟩, hmove⟩
    · exact ⟨hr, move⟩
    · rw [hanswer]
      exact ⟨hr, hmove⟩
  · rw [h] at hanswer
    obtain ⟨hr, rfl⟩ | ⟨hr, rfl | rfl⟩ := turn.cases
    · rw [hanswer] at hr ⊢
      exact Or.inr ⟨σ₂, hmove, rfl, Contents.follow_logged fresh _ _ _ _ _ _, Or.inl hr⟩
    · exact Or.inl ⟨hr, move⟩
    · rw [hanswer]
      exact Or.inr ⟨σ₂, hmove, rfl, Contents.follow_logged fresh _ _ _ _ _ _, Or.inr hr⟩

end World

end TenantFleet
