/-
# Servers that guard versions

A server that keeps an object with its versions refuses a patch that was made for another version
than the one that is stored, and puts the object under a new version whenever it merges one.

* `Guards` : that a link leads to such a server;
* `save_cases` : what a write of a handler does there.
-/
import TenantFleet.Proofs.Stage.Store
import TenantFleet.Proofs.Stage.Version

namespace TenantFleet

open Http

/-! ## Servers -/

/-- The documents that an object was stored as. -/
structure Versions where
  /-- The document that is stored. -/
  current : Json
  /-- The documents that were stored before, the last ones first. -/
  earlier : List Json := []

namespace Versions

/-- All documents that were stored. -/
def all (v : Versions) : List Json := v.current :: v.earlier

/-- The documents after another one is stored. -/
def push (v : Versions) (x : Json) : Versions := ⟨x, v.all⟩

/-- Whether nothing was ever stored under a version. -/
def Fresh (v : Versions) (version : String) : Prop := ∀ x ∈ v.all, x.version ≠ some version

end Versions

/-- Whether a reply says that the object changed meanwhile. -/
def SaysConflict (reply : Reply) : Prop :=
  reply.failure = true ∧ (KubeError.ofReply reply).hasCode 409 = true

/-- Whether a link leads to a server that guards the versions of an object. A patch for another
version than that of the object changes nothing, and is answered by a conflict if at all; any other
changes nothing, or is merged under a new version. -/
def Guards (link : Link KubeError Versions) : Prop :=
  ∀ request change v r v', request.method = .patch → request.body = some (.mergePatch change) →
    link request v = (r, v') →
      if change.version.isSome = true ∧ change.version ≠ v.current.version then
        v' = v ∧ ∀ reply, r = .ok reply → SaysConflict reply
      else v' = v ∨
        ∃ version, v.Fresh version ∧ v' = v.push ((v.current.merge change).withVersion version)

/-- Whether the first request of an exchange gets a reply. -/
def Http.Exchange.Answered {ε α ω : Type} (link : Link ε ω) : Exchange ε α → ω → Prop
  | .done _, _ => False
  | .send request _, w => ∃ reply, (link request w).1 = .ok reply

/-! ## Writes -/

variable {s : KubeService} {target : StatusTarget} {handler : String} {values : Dict String}

/-- A change of a status is one request. -/
theorem patchStatus_cases {α : Type} (s : KubeService) (read : Reader α) (kind : ObjectKind)
    (space : Option String) (name : String) (change : Json) :
    (∃ e, s.patchStatus read kind space name change = .done (.error e)) ∨
      ∃ request, request.method = .patch ∧ request.body = some (.mergePatch change) ∧
        s.patchStatus read kind space name change =
          .send request fun reply => .done (kubeValue read reply) := by
  unfold KubeService.patchStatus KubeService.send
  split
  · rename_i request hrequest
    obtain ⟨url, rfl⟩ := request_of_located hrequest
    exact Or.inr ⟨_, rfl, rfl, rfl⟩
  · exact Or.inl ⟨_, rfl⟩

/-- A write is one request, and fails as that is refused. -/
theorem save_eq (s : KubeService) (target : StatusTarget) (handler : String)
    (values : Dict String) : (∃ e, Management.save s target handler values = .done (.error e)) ∨
      ∃ (request : Request) (answer : Reply → Except KubeError Unit), request.method = .patch ∧
        request.body = some (.mergePatch (statusPatch target.resourceVersion handler values)) ∧
        Management.save s target handler values = .send request
          (fun reply => .done (answer reply)) ∧
        ∀ reply : Reply, reply.failure = true → answer reply = .error (.ofReply reply) := by
  have hmap : ∀ {α : Type} (read : Reader α) (kind : ObjectKind),
      let change := statusPatch target.resourceVersion handler values
      let x := (s.patchStatus read kind (some target.space) target.name change).map fun _ => ()
      (∃ e, x = .done (.error e)) ∨
        ∃ (request : Request) (answer : Reply → Except KubeError Unit), request.method = .patch ∧
          request.body = some (.mergePatch change) ∧
          x = .send request (fun reply => .done (answer reply)) ∧
          ∀ reply : Reply, reply.failure = true → answer reply = .error (.ofReply reply) := by
    intro α read kind
    dsimp only
    rcases patchStatus_cases s read kind (some target.space) target.name
      (statusPatch target.resourceVersion handler values) with ⟨e, h⟩ | ⟨request, hmethod, hbody, h⟩
    · rw [h]
      exact Or.inl ⟨e, rfl⟩
    · rw [h]
      refine Or.inr ⟨request, fun reply => (kubeValue read reply).map fun _ => (), hmethod, hbody,
        ?_, ?_⟩
      · refine congrArg (Exchange.send request) (funext fun reply => ?_)
        dsimp only
        cases kubeValue read reply <;> rfl
      · intro reply hfailure
        dsimp only
        unfold kubeValue
        rw [if_pos hfailure]
        rfl
  unfold Management.save
  cases target.kind with
  | azureConfig => exact hmap AzureConfig.read AzureConfig.kind
  | azureMachinePool => exact hmap AzureMachinePool.read AzureMachinePool.kind

/-- A write at a server that guards versions changes nothing, and fails with a conflict if it is
answered though it is for another version; or it is merged, and is for the version that is stored or
for none. -/
theorem save_cases {link : Link KubeError Versions} (hlink : Guards link) {v v' : Versions}
    {r : Except KubeError Unit}
    (h : (Management.save s target handler values).run link v = (r, v')) :
    (v' = v ∧ (target.resourceVersion.isSome = true → target.resourceVersion ≠ v.current.version →
      (Management.save s target handler values).Answered link v →
        ∃ e : KubeError, e.hasCode 409 = true ∧ r = .error e)) ∨
      ((target.resourceVersion.isSome = true → target.resourceVersion = v.current.version) ∧
        ∃ version, v.Fresh version ∧ v' = v.push
          ((v.current.merge (statusPatch target.resourceVersion handler values)).withVersion
            version)) := by
  rcases save_eq s target handler values with ⟨e, hsave⟩ |
    ⟨request, answer, hmethod, hbody, hsave, hfailed⟩
  · rw [hsave] at h ⊢
    obtain ⟨-, rfl⟩ := Prod.mk.inj h
    exact Or.inl ⟨rfl, fun _ _ hanswered => hanswered.elim⟩
  · rw [hsave] at h ⊢
    cases hreply : link request v with
    | mk reply v₁ =>
      have hguards := hlink request _ v reply v₁ hmethod hbody hreply
      rw [version_statusPatch] at hguards
      -- The link leaves the server as it is left in the end.
      have hend : v' = v₁ ∧ ∀ answered, reply = .ok answered → r = answer answered := by
        unfold Exchange.run at h
        rw [hreply] at h
        cases reply with
        | ok answered =>
          obtain ⟨rfl, rfl⟩ := Prod.mk.inj h
          refine ⟨rfl, ?_⟩
          rintro _ ⟨⟩
          rfl
        | error e =>
          obtain ⟨-, rfl⟩ := Prod.mk.inj h
          exact ⟨rfl, fun _ h => by cases h⟩
      rw [hend.1]
      split at hguards
      · left
        refine ⟨hguards.1, ?_⟩
        rintro - - ⟨answered, hanswered⟩
        rw [hreply] at hanswered
        obtain ⟨hfailure, hconflict⟩ := hguards.2 answered hanswered
        refine ⟨_, hconflict, ?_⟩
        rw [hend.2 answered hanswered]
        exact hfailed answered hfailure
      · rename_i hcurrent
        have hversion : target.resourceVersion.isSome = true →
            target.resourceVersion = v.current.version := by
          intro hsome
          by_cases h : target.resourceVersion = v.current.version
          · exact h
          · exact absurd ⟨hsome, h⟩ hcurrent
        rcases hguards with hsame | hmerged
        · left
          exact ⟨hsame, fun hsome hne _ => absurd (hversion hsome) hne⟩
        · exact Or.inr ⟨hversion, hmerged⟩

end TenantFleet
