/-
# Drift is change

What was submitted last is known by the checksums of the normal texts of a template and its
parameters. As far as the hash tells these texts apart, another template is submitted exactly when
it or its parameters are another value.

* `Json.Restyled` : that texts differ in blanks and member order alone;
* `Json.read?_restyled` : such texts are read as one document;
* `checksum_eq_iff` : what checksums tell;
* `drift_iff_changed` : when a template drifts from the one that was submitted last.
-/
import TenantFleet.Proofs.Json.Blanks
import TenantFleet.Proofs.Json.Render
import TenantFleet.Proofs.Pass.Settlement

namespace TenantFleet

open Program

namespace Json

variable {R : String → String → Prop} {text text' : String} {x y : Json}

/-! ## Texts of documents -/

/-- Whether two texts differ in nothing but blanks outside of quoted texts and the order of members,
of which neighbours with related names may change places. -/
inductive Restyled (R : String → String → Prop) : String → String → Prop
  /-- More or fewer blanks. -/
  | blanks {text text' : String} (h : Token.squeeze text = Token.squeeze text') :
      Restyled R text text'
  /-- Members in another order. -/
  | members {text text' : String} {x y : Json} (hx : parse? text = some x)
      (hy : parse? text' = some y) (h : Reordered R x y) : Restyled R text text'
  /-- Both. -/
  | trans {text text' text'' : String} : Restyled R text text' → Restyled R text' text'' →
      Restyled R text text''

/-- Texts that differ in blanks are read as one document, if they are read at all. -/
theorem read?_of_squeeze (hsame : Token.squeeze text = Token.squeeze text')
    (hx : read? text = some x) (hy : read? text' = some y) : x = y := by
  obtain ⟨d, hd, rfl⟩ := Option.map_eq_some_iff.1 hx
  obtain ⟨d', hd', rfl⟩ := Option.map_eq_some_iff.1 hy
  obtain ⟨w, hw, hvalue⟩ := Option.bind_eq_some_iff.1 hd
  obtain ⟨w', hw', hvalue'⟩ := Option.bind_eq_some_iff.1 hd'
  obtain rfl := Written.parse?_of_squeeze hsame hw hw'
  rw [hvalue, Option.some.injEq] at hvalue'
  rw [hvalue']

/-- Whether a text can be read as a document when its blanks are changed. -/
def ReadsAs (text : String) (x : Json) : Prop :=
  ∃ other, Token.squeeze other = Token.squeeze text ∧ read? other = some x

/-- Texts that differ in blanks and in the order of members with different names can be read as the
same documents. -/
theorem Restyled.readsAs_iff (h : Restyled (fun name name' => name ≠ name') text text') (x : Json) :
    ReadsAs text x ↔ ReadsAs text' x := by
  induction h with
  | blanks h =>
    unfold ReadsAs
    rw [h]
  | @members text text' d d' hd hd' hreordered =>
    have hread : read? text = some (canonical d) := congrArg (Option.map canonical) hd
    have hread' : read? text' = some (canonical d) := by
      rw [canonical_reordered hreordered]
      exact congrArg (Option.map canonical) hd'
    constructor
    · rintro ⟨other, hother, hx⟩
      rw [read?_of_squeeze hother hx hread]
      exact ⟨text', rfl, hread'⟩
    · rintro ⟨other, hother, hx⟩
      rw [read?_of_squeeze hother hx hread']
      exact ⟨text, rfl, hread⟩
  | trans _ _ ih ih' => exact ih.trans ih'

/-- **Blanks and member order do not count.** Texts that differ in blanks and in the order of
members with different names are read as one document, if they are read at all. -/
theorem read?_restyled (h : Restyled (fun name name' => name ≠ name') text text')
    (hx : read? text = some x) (hy : read? text' = some y) : x = y := by
  obtain ⟨other, hother, hx'⟩ := (h.readsAs_iff x).1 ⟨text, rfl, hx⟩
  exact read?_of_squeeze hother hx' hy

end Json

/-- The document in a file is what its text is read as. -/
theorem read?_of_document {files : TemplateFiles} {file text : String} {x : Json}
    (htext : files.files.get? file = some text) (hx : files.document file = .ok x) :
    Json.read? text = some x := by
  unfold TemplateFiles.document at hx
  rw [htext] at hx
  dsimp only at hx
  split at hx
  · cases hx
  · rename_i hread
    cases hx
    exact hread

/-! ## Checksums -/

variable {g : ResourceGroup} {name : String} {s s' : HandlerState} {t t' : DeploymentTemplate}
  {trace : List Asked}

/-- Whether the hash tells the normal texts of two documents apart, if they differ. -/
def ToldApart (x y : Json) : Prop :=
  Sha256.hex x.normalText = Sha256.hex y.normalText → x.normalText = y.normalText

/-- Checksums that are told apart are the same for same values. -/
theorem checksum_eq_iff {x y : Json} (hx : x.integral = true) (hy : y.integral = true)
    (htold : ToldApart x y) :
    checksum x = checksum y ↔ Json.Same x y := by
  rw [← Json.normalText_eq_iff hx hy]
  exact ⟨htold, congrArg Sha256.hex⟩

/-- A template is unchanged exactly when both of its checksums are known. -/
theorem drift_eq_none_iff : drift s t = none ↔ s.Knows t.checksums.1 t.checksums.2 := by
  refine ⟨knows_of_drift_eq_none, fun hknows => ?_⟩
  unfold drift
  exact if_pos hknows

/-- The checksums of a template that drifts. -/
theorem checksums_of_drift {template parameters : String}
    (h : drift s t = some (template, parameters)) :
    t.checksums = (template, parameters) := by
  unfold drift at h
  split at h
  · cases h
  · exact Option.some.inj h

/-- What is submitted is known by both of its checksums. -/
theorem state_of_submitted (h : Yields (submitIfChanged g name s t) trace (true, s')) :
    s' = s.setChecksums t.checksums.1 t.checksums.2 := by
  unfold submitIfChanged at h
  split at h
  · cases (yields_done.1 h).2
  · rename_i template parameters hdrift
    obtain ⟨operation, before, after, rfl, -, hend⟩ := yields_bind.1 h
    cases (yields_done.1 hend).2
    rw [checksums_of_drift hdrift]

/-- What was submitted last is unchanged exactly when its checksums are the same. -/
theorem drift_submitted (h : Yields (submitIfChanged g name s t) trace (true, s'))
    (t' : DeploymentTemplate) :
    drift s' t' = none ↔
      checksum t.template = checksum t'.template ∧
      checksum t.parameters = checksum t'.parameters := by
  obtain ⟨htemplate, hparameters⟩ :=
    HandlerState.checksums_setChecksums s t.checksums.1 t.checksums.2
  rw [drift_eq_none_iff, state_of_submitted h, HandlerState.Knows, htemplate, hparameters,
    Option.some.injEq, Option.some.injEq]
  rfl

/-! ## Submissions -/

/-- The call that submits a template. -/
def submission (g : ResourceGroup) (name : String) (t : DeploymentTemplate) : Call :=
  .cloud g.account g.name (.putDeployment name t.deployment)

/-- A template that drifts is submitted, and what follows knows the map with its checksums; when the
submission fails, nothing follows. -/
theorem submitIfChanged_bind {β : Type} (next : Bool × HandlerState → Program β)
    (hdrift : drift s t ≠ none) :
    (submitIfChanged g name s t).bind next = (Program.call (submission g name t)).bind fun _ =>
      next (true, s.setChecksums t.checksums.1 t.checksums.2) := by
  unfold submitIfChanged
  split
  · rename_i hnone
    exact absurd hnone hdrift
  · rename_i template parameters hsome
    rw [checksums_of_drift hsome, bind_eq, bind_assoc]
    rfl

/-- A submission that is accepted is one of which the checksums are kept. -/
theorem yields_submitIfChanged (hdrift : drift s t ≠ none) (operation : Operation) :
    Yields (submitIfChanged g name s t) [⟨submission g name t, .ok operation⟩]
      (true, s.setChecksums t.checksums.1 t.checksums.2) := by
  rw [← bind_done (submitIfChanged g name s t), submitIfChanged_bind _ hdrift]
  exact yields_bind.2 ⟨operation, _, [], rfl, yields_call.2 rfl, yields_done.2 ⟨rfl, rfl⟩⟩

/-- Whatever is to follow a submission, nothing follows one that has failed. -/
theorem path_submission_refused {β : Type} {next : Bool × HandlerState → Program β} {q : Program β}
    {after : List Asked} {e : AzureError} (hdrift : drift s t ≠ none)
    (path : Path .any ((submitIfChanged g name s t).bind next) ()
      (⟨submission g name t, .error e⟩ :: after) q ()) :
    after = [] ∧ q = done (.error (.azure e)) := by
  rw [submitIfChanged_bind _ hdrift] at path
  rcases path.call_cases with ⟨hnil, -⟩ | ⟨e', htrace, rfl⟩ | ⟨operation, _, _, htrace, -⟩
  · cases hnil
  · cases htrace
    exact ⟨rfl, rfl⟩
  · cases htrace

/-- **Drift is change.** Once a template without floating point numbers was submitted, another one
is unchanged exactly when it and its parameters are the same values, as far as the hash tells them
apart. Files whose texts differ in blanks and in the order of members with different names are never
told apart. What is unchanged is not submitted, and the map stays. Behind a submission that has
failed nothing is done, so no other map is kept. -/
theorem drift_iff_changed (g : ResourceGroup) (name : String) (s : HandlerState)
    (t : DeploymentTemplate)
    (htemplate : t.template.integral = true) (hparameters : t.parameters.integral = true) :
    (∀ trace s', Yields (submitIfChanged g name s t) trace (true, s') → ∀ t' : DeploymentTemplate,
      t'.template.integral = true → t'.parameters.integral = true →
      ToldApart t.template t'.template → ToldApart t.parameters t'.parameters →
      (drift s' t' = none ↔ Json.Same t.template t'.template ∧
        Json.Same t.parameters t'.parameters)) ∧
    (∀ (files files' : TemplateFiles) (file text text' : String) (x x' parameters : Json),
      files.files.get? file = some text → files'.files.get? file = some text' →
      Json.Restyled (fun name name' => name ≠ name') text text' →
      files.document file = .ok x → files'.document file = .ok x' →
      ∀ s : HandlerState, drift s ⟨x', parameters⟩ = drift s ⟨x, parameters⟩) ∧
    (drift s t = none → submitIfChanged g name s t = done (.ok (false, s))) ∧
    (drift s t ≠ none → ∀ (β : Type) (next : Bool × HandlerState → Program β) (q : Program β)
      (after : List Asked) (e : AzureError),
      Path .any ((submitIfChanged g name s t).bind next) ()
        (⟨submission g name t, .error e⟩ :: after) q () →
        after = [] ∧ q = done (.error (.azure e))) := by
  refine ⟨?_, ?_, ?_, fun hdrift β next q after e path => path_submission_refused hdrift path⟩
  · intro trace s' hsubmitted t' htemplate' hparameters' htold htold'
    rw [drift_submitted hsubmitted, checksum_eq_iff htemplate htemplate' htold,
      checksum_eq_iff hparameters hparameters' htold']
  · intro files files' file text text' x x' parameters htext htext' hrestyled hx hx' s
    rw [Json.read?_restyled hrestyled (read?_of_document htext hx) (read?_of_document htext' hx')]
  · intro hdrift
    unfold submitIfChanged
    rw [hdrift]
    rfl

/-- A template of two members without parameters. -/
def twoMembers (members : List (String × Json)) : DeploymentTemplate := ⟨.obj members, .obj []⟩

/-- The map after a template was submitted. -/
def behind (t : DeploymentTemplate) : HandlerState :=
  ({} : HandlerState).setChecksums t.checksums.1 t.checksums.2

/-- Nothing is known before the first submission. -/
theorem drift_empty (t : DeploymentTemplate) : drift {} t ≠ none := by
  intro hnone
  have hknows := (drift_eq_none_iff.1 hnone).1
  cases hknows

/-- A template with its members in another order is unchanged, and one with their values exchanged
drifts. -/
theorem drift_iff_changed_members :
    drift (behind (twoMembers [("a", .int 1), ("b", .int 2)]))
      (twoMembers [("b", .int 2), ("a", .int 1)]) = none ∧
      drift (behind (twoMembers [("a", .int 1), ("b", .int 2)]))
        (twoMembers [("a", .int 2), ("b", .int 1)]) ≠ none := by
  have hiff := (drift_iff_changed default "masters" {} (twoMembers [("a", .int 1), ("b", .int 2)])
    rfl rfl).1 _ _
    (yields_submitIfChanged (drift_empty _) default)
  constructor
  · have hsame : Json.Same (.obj [("a", .int 1), ("b", .int 2)])
        (.obj [("b", .int 2), ("a", .int 1)]) :=
      Json.canonical_eq_iff.1 (by decide)
    refine (hiff (twoMembers [("b", .int 2), ("a", .int 1)]) rfl rfl ?_ fun _ => rfl).2
      ⟨hsame, Json.canonical_eq_iff.1 rfl⟩
    exact fun _ => by decide
  · intro hnone
    have htold : ToldApart (.obj [("a", .int 1), ("b", .int 2)])
        (.obj [("a", .int 2), ("b", .int 1)]) :=
      fun heq => absurd heq (by decide +kernel)
    have hsame := ((hiff (twoMembers [("a", .int 2), ("b", .int 1)]) rfl rfl htold fun _ =>
      rfl).1 hnone).1
    exact absurd hsame.canonical_eq (by decide)

/-- Two texts that differ in the order of members of one name are different documents, as the later
one counts. So the second one is submitted after the first one. -/
theorem not_unchanged_by_order : ∃ text text' x x',
    Json.Restyled (fun _ _ => True) text text' ∧ Json.read? text = some x ∧
    Json.read? text' = some x' ∧
      ∃ trace s', Yields (submitIfChanged default "masters" {} ⟨x, .obj []⟩) trace (true, s') ∧
        drift s' ⟨x', .obj []⟩ ≠ none := by
  have hswap : Json.Reordered (fun _ _ => True) (.obj [("a", .int 1), ("a", .int 2)])
      (.obj [("a", .int 2), ("a", .int 1)]) := .swap [] [] trivial
  have hsubmitted : Yields (submitIfChanged default "masters" {} ⟨.obj [("a", .int 2)], .obj []⟩) _
      (true, behind ⟨.obj [("a", .int 2)], .obj []⟩) :=
    yields_submitIfChanged (drift_empty _) default
  refine ⟨"\x7b\"a\":1,\"a\":2\x7d", "\x7b\"a\":2,\"a\":1\x7d", .obj [("a", .int 2)],
    .obj [("a", .int 1)],
    .members (by decide +kernel) (by decide +kernel) hswap, by decide +kernel, by decide +kernel, _,
      _, hsubmitted,
    fun hnone => ?_⟩
  have hchecksum : checksum (.obj [("a", .int 2)]) = checksum (.obj [("a", .int 1)]) :=
    ((drift_submitted hsubmitted _).1 hnone).1
  exact absurd hchecksum (by decide +kernel)

end TenantFleet
