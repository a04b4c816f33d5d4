/-
# What waiting for the end of an operation reports

The reply to a change says where its end can be asked for, and what waiting reports is decided by
the first reply from there that does not say the operation goes on. All this holds over every link
to servers, so with all replies there can be.

* `PollTarget.GoesOn`, `PollTarget.Succeeds`, `Fails` : what a reply says about the end;
* `said` and its lemmas : each reply says one of these;
* `Link.again` : the replies to a request that is sent again and again;
* `EndsWith` and `run_poll_of_endsWith` : the reply that decides, and what waiting makes of it;
* `wait_reports` : changes, operations that have ended, and waiting for others.
-/
import Mathlib.Logic.Function.Iterate
import Mathlib.Tactic.SplitIfs
import TenantFleet.Cloud.Service

namespace TenantFleet

open Http

variable {ω : Type} {link : Link AzureError ω} {what : String} {target : PollTarget} {r : Reply}
  {e : AzureError} {w w' : ω} {n : Nat}

/-! ## Replies about the end -/

namespace PollTarget

/-- The request for the end of an operation. -/
def request : PollTarget → Request
  | .status url => .get url
  | .location url => .get url

/-- Whether a reply says that the operation goes on. -/
def GoesOn : PollTarget → Reply → Prop
  | .status _, r => r.success = true ∧
      ∃ d, r.decoded StatusDocument.read = .ok d ∧ d.status ∉ ["Succeeded", "Failed", "Canceled"]
  | .location _, r => r.status = 202

/-- Whether a reply says that the operation has ended well. -/
def Succeeds : PollTarget → Reply → Prop
  | .status _, r => r.success = true ∧ ∃ d, r.decoded StatusDocument.read = .ok d ∧
    d.status = "Succeeded"
  | .location _, r => r.success = true ∧ r.status ≠ 202

end PollTarget

namespace CloudService

/-- The failure that a reply about the end of an operation stands for. -/
inductive Fails (what : String) : PollTarget → Reply → AzureError → Prop
  /-- The reply does not report success. -/
  | refused {target : PollTarget} {r : Reply} (h : r.success = false) :
    Fails what target r (.ofStatus r.status (what ++ ": " ++ r.text))
  /-- The text is no status document. -/
  | undecodable {url : String} {r : Reply} (h : r.success = true)
    (hnone : (Json.Written.parse? r.text).bind StatusDocument.read = none) :
    Fails what (.status url) r .undecodable
  /-- The operation has ended badly, for the reason in the document or with the status alone. -/
  | ended {url : String} {r : Reply} {d : StatusDocument} (h : r.success = true)
    (hd : r.decoded StatusDocument.read = .ok d)
    (hstatus : d.status = "Failed" ∨ d.status = "Canceled") :
    Fails what (.status url) r (.operationFailed (what ++ ": " ++
      d.error.elim d.status Json.render))

/-- Whether an operation has ended, as a status document says it. -/
def concluded (what : String) (d : StatusDocument) : Except AzureError Bool :=
  match d.progress with
  | .running => .ok false
  | .succeeded => .ok true
  | .failed reason => .error (.operationFailed (what ++ ": " ++ reason))

/-- Whether an operation has ended, as a reply says it. -/
def said (what : String) : PollTarget → Reply → Except AzureError Bool
  | .status _, r =>
    match r.document StatusDocument.read what with
    | .ok d => concluded what d
    | .error e => .error e
  | .location _, r => if r.status = 202 then .ok false else (r.checked what).map fun _ => true

theorem said_status (what url : String) (r : Reply) :
    said what (.status url) r =
      match r.document StatusDocument.read what with
      | .ok d => concluded what d
      | .error e => .error e := rfl

theorem said_location (what url : String) (r : Reply) :
    said what (.location url) r =
      if r.status = 202 then .ok false else (r.checked what).map fun _ => true := rfl

/-- Asking for the end sends one request, and the reply to it is all that counts. -/
theorem run_ended (link : Link AzureError ω) (what : String) (target : PollTarget) (w : ω) :
    Exchange.run link (ended what target) w =
      match link target.request w with
      | (.ok r, w') => (said what target r, w')
      | (.error e, w') => (.error e, w') := by
  cases target with
  | status url =>
    rcases hlink : link (.get url) w with ⟨e | reply, w'⟩
    · simp only [ended, fetch, PollTarget.request, Exchange.send_bind, Exchange.run, hlink]
    · simp only [ended, fetch, PollTarget.request, Exchange.send_bind, Exchange.run, hlink,
        said_status, concluded]
      cases reply.document StatusDocument.read what with
      | error e => rfl
      | ok d =>
        dsimp only [Exchange.bind]
        cases d.progress <;> rfl
  | location url =>
    rcases hlink : link (.get url) w with ⟨e | reply, w'⟩
    · simp only [ended, PollTarget.request, Exchange.run, hlink]
    · simp only [ended, PollTarget.request, Exchange.run, hlink, said_location]
      split <;> rfl

/-- What a status document says is decided by its status. -/
theorem concluded_eq (what : String) (d : StatusDocument) :
    concluded what d =
      if d.status = "Succeeded" then .ok true
      else if d.status = "Failed" ∨ d.status = "Canceled" then
        .error (.operationFailed (what ++ ": " ++ d.error.elim d.status Json.render))
      else .ok false := by
  have hbad : d.status ∈ StatusDocument.failedStatuses ↔
      d.status = "Failed" ∨ d.status = "Canceled" := by
    unfold StatusDocument.failedStatuses
    rw [List.mem_cons, List.mem_singleton]
  unfold concluded StatusDocument.progress StatusDocument.succeededStatus
  by_cases hgood : d.status = "Succeeded"
  · rw [if_pos hgood, if_pos hgood]
  · rw [if_neg hgood, if_neg hgood]
    split_ifs with hfailed hstatus hstatus
    · cases d.error <;> rfl
    · exact absurd (hbad.1 hfailed) hstatus
    · exact absurd (hbad.2 hstatus) hfailed
    · rfl

/-- A reply that does not report success is a failure of its status, wherever it comes from. -/
theorem said_of_not_success (target : PollTarget) (h : r.success = false) :
    said what target r = .error (.ofStatus r.status (what ++ ": " ++ r.text)) := by
  cases target with
  | status url => rw [said_status, Reply.document_of_not_success h]
  | location url =>
    have hstatus : r.status ≠ 202 := by
      intro h202
      rw [Reply.success, h202] at h
      cases h
    rw [said_location, if_neg hstatus, Reply.checked_of_not_success h]
    rfl

/-- What a status document in a reply says. -/
theorem said_status_of_ok {url : String} {d : StatusDocument} (h : r.success = true)
    (hd : r.decoded StatusDocument.read = .ok d) :
    said what (.status url) r = concluded what d := by
  rw [said_status, Reply.document_of_success h, hd]

/-- A text that is no status document is a failure. -/
theorem said_status_of_error {url : String} (h : r.success = true)
    (hd : r.decoded StatusDocument.read = .error e) :
    said what (.status url) r = .error .undecodable := by
  have hwhich : e = .undecodable := by
    unfold Reply.decoded at hd
    split at hd
    · cases hd
    · cases hd
      rfl
  rw [said_status, Reply.document_of_success h, hd, hwhich]

theorem said_of_goesOn (h : target.GoesOn r) : said what target r = .ok false := by
  cases target with
  | status url =>
    obtain ⟨hsuccess, d, hd, hstatus⟩ := h
    simp only [List.mem_cons, List.not_mem_nil, or_false, not_or] at hstatus
    obtain ⟨hgood, hfailed, hcanceled⟩ := hstatus
    rw [said_status_of_ok hsuccess hd, concluded_eq, if_neg hgood,
      if_neg (by simp [hfailed, hcanceled])]
  | location url => exact if_pos h

theorem said_of_succeeds (h : target.Succeeds r) : said what target r = .ok true := by
  cases target with
  | status url =>
    obtain ⟨hsuccess, d, hd, hstatus⟩ := h
    rw [said_status_of_ok hsuccess hd, concluded_eq, if_pos hstatus]
  | location url =>
    obtain ⟨hsuccess, hstatus⟩ := h
    rw [said_location, if_neg hstatus, Reply.checked_of_success hsuccess]
    rfl

theorem said_of_fails (h : Fails what target r e) : said what target r = .error e := by
  cases h with
  | refused h => exact said_of_not_success target h
  | undecodable h hnone =>
    have hd : r.decoded StatusDocument.read = .error .undecodable := by
      unfold Reply.decoded
      rw [hnone]
    exact said_status_of_error h hd
  | ended h hd hstatus =>
    rw [said_status_of_ok h hd, concluded_eq,
      if_neg (by rcases hstatus with h | h <;> rw [h] <;> decide), if_pos hstatus]

/-- Each reply says that the operation goes on, has ended well or has failed. -/
theorem goesOn_or_succeeds_or_fails (what : String) (target : PollTarget) (r : Reply) :
    target.GoesOn r ∨ target.Succeeds r ∨ ∃ e, Fails what target r e := by
  cases hsuccess : r.success with
  | false => exact Or.inr (Or.inr ⟨_, .refused hsuccess⟩)
  | true =>
    cases target with
    | location url =>
      -- A place answers with its status alone, so no reply that reports success is a failure.
      by_cases hstatus : r.status = 202
      · exact Or.inl hstatus
      · exact Or.inr (Or.inl ⟨hsuccess, hstatus⟩)
    | status url =>
      cases hread : (Json.Written.parse? r.text).bind StatusDocument.read with
      | none => exact Or.inr (Or.inr ⟨_, .undecodable hsuccess hread⟩)
      | some d =>
        have hd : r.decoded StatusDocument.read = .ok d := by
          unfold Reply.decoded
          rw [hread]
        by_cases hgood : d.status = "Succeeded"
        · exact Or.inr (Or.inl ⟨hsuccess, d, hd, hgood⟩)
        · by_cases hbad : d.status = "Failed" ∨ d.status = "Canceled"
          · exact Or.inr (Or.inr ⟨_, .ended hsuccess hd hbad⟩)
          · refine Or.inl ⟨hsuccess, d, hd, ?_⟩
            simp only [List.mem_cons, List.not_mem_nil, or_false, not_or]
            exact ⟨hgood, not_or.1 hbad⟩

theorem said_eq_true_iff (what : String) : said what target r = .ok true ↔ target.Succeeds r := by
  refine ⟨fun h => ?_, said_of_succeeds⟩
  rcases goesOn_or_succeeds_or_fails what target r with hgoes | hgood | ⟨e, hbad⟩
  · rw [said_of_goesOn hgoes] at h
    cases h
  · exact hgood
  · rw [said_of_fails hbad] at h
    cases h

theorem said_eq_error_iff (what : String) :
    said what target r = .error e ↔ Fails what target r e := by
  refine ⟨fun h => ?_, said_of_fails⟩
  rcases goesOn_or_succeeds_or_fails what target r with hgoes | hgood | ⟨e', hbad⟩
  · rw [said_of_goesOn hgoes] at h
    cases h
  · rw [said_of_succeeds hgood] at h
    cases h
  · rw [said_of_fails hbad] at h
    cases h
    exact hbad

theorem said_eq_false_iff (what : String) : said what target r = .ok false ↔ target.GoesOn r := by
  refine ⟨fun h => ?_, said_of_goesOn⟩
  rcases goesOn_or_succeeds_or_fails what target r with hgoes | hgood | ⟨e, hbad⟩
  · exact hgoes
  · rw [said_of_succeeds hgood] at h
    cases h
  · rw [said_of_fails hbad] at h
    cases h

/-! ## Asking again and again -/

/-- The state of a link after a request was sent a number of times. -/
def sent (link : Link AzureError ω) (request : Request) (n : Nat) (w : ω) : ω :=
  (fun w => (link request w).2)^[n] w

theorem sent_succ (link : Link AzureError ω) (request : Request) (n : Nat) (w : ω) :
    sent link request (n + 1) w = (link request (sent link request n w)).2 :=
  Function.iterate_succ_apply' _ n w

/-- Whether the first replies all say that the operation goes on. -/
def GoesOnFor (link : Link AzureError ω) (target : PollTarget) (n : Nat) (w : ω) : Prop :=
  ∀ k, k < n → ∃ r, (link target.request (sent link target.request k w)).1 = .ok r ∧ target.GoesOn r

/-- One more question, and what is done after it. -/
theorem run_poll (link : Link AzureError ω) (what : String) (target : PollTarget)
    (milliseconds repeats : Nat) (w : ω) :
    Exchange.run link (poll what target milliseconds repeats) w =
      match Exchange.run link (ended what target) w with
      | (.ok true, w') => (.ok (), w')
      | (.ok false, w') =>
        match repeats with
        | 0 => (.error (timedOut what milliseconds), w')
        | k + 1 => Exchange.run link (poll what target milliseconds k) w'
      | (.error e, w') => (.error e, w') := by
  cases repeats with
  | zero =>
    rw [poll, Exchange.run_bind]
    rcases Exchange.run link (ended what target) w with ⟨e | finished, w'⟩
    · rfl
    · cases finished <;> rfl
  | succ k =>
    rw [poll, Exchange.run_bind]
    rcases Exchange.run link (ended what target) w with ⟨e | finished, w'⟩
    · rfl
    · cases finished <;> rfl

/-- An answer comes with the state of the link after it. -/
theorem exists_answered {request : Request} {answer : Except AzureError Reply}
    (h : (link request w).1 = answer) : ∃ w', link request w = (answer, w') := ⟨_, Prod.ext h rfl⟩

/-- A reply that is not in progress ends the waiting, however often could still be asked. -/
theorem run_poll_of_reply (hreply : (link target.request w).1 = .ok r) (hends : ¬target.GoesOn r)
    (milliseconds repeats : Nat) :
    Exchange.run link (poll what target milliseconds repeats) w =
      ((said what target r).map fun _ => (), (link target.request w).2) := by
  obtain ⟨w', hlink⟩ := exists_answered hreply
  rw [run_poll, run_ended, hlink]
  dsimp only
  rcases goesOn_or_succeeds_or_fails what target r with hgoes | hgood | ⟨e, hbad⟩
  · exact absurd hgoes hends
  · rw [said_of_succeeds hgood]
    rfl
  · rw [said_of_fails hbad]
    rfl

/-- A request that gets no reply ends the waiting. -/
theorem run_poll_of_lost (hlost : (link target.request w).1 = .error e)
    (milliseconds repeats : Nat) :
    Exchange.run link (poll what target milliseconds repeats) w =
      (.error e, (link target.request w).2) := by
  obtain ⟨w', hlink⟩ := exists_answered hlost
  rw [run_poll, run_ended, hlink]

/-- A reply that is in progress is followed by the next question, or by giving up. -/
theorem run_poll_of_goesOn (hreply : (link target.request w).1 = .ok r) (hgoes : target.GoesOn r)
    (milliseconds repeats : Nat) :
    Exchange.run link (poll what target milliseconds repeats) w =
      match repeats with
      | 0 => (.error (timedOut what milliseconds), (link target.request w).2)
      | k + 1 => Exchange.run link (poll what target milliseconds k) (link target.request w).2 := by
  obtain ⟨w', hlink⟩ := exists_answered hreply
  rw [run_poll, run_ended, hlink]
  dsimp only
  rw [said_of_goesOn hgoes]

/-- While the operation goes on, waiting asks again. -/
theorem run_poll_add (what : String) (h : GoesOnFor link target n w) (milliseconds k : Nat) :
    Exchange.run link (poll what target milliseconds (n + k)) w =
      Exchange.run link (poll what target milliseconds k) (sent link target.request n w) := by
  induction n generalizing k with
  | zero =>
    rw [Nat.zero_add]
    rfl
  | succ n ih =>
    -- The last of the replies is taken off; before it one more question was left.
    obtain ⟨reply, hreply, hgoes⟩ := h n (Nat.lt_succ_self n)
    rw [Nat.add_assoc, ih (fun j hj => h j (Nat.lt_succ_of_lt hj)), Nat.add_comm 1 k,
      run_poll_of_goesOn hreply hgoes, sent_succ]

/-- Waiting asks for the end at the place of the operation, as long as it goes on. -/
theorem run_wait_add {p : Patience} {o : Operation} {k : Nat} (htarget : o.poll = some target)
    (hrepeats : p.repeats = n + k) (h : GoesOnFor link target n w) :
    Exchange.run link (wait p o) w =
      Exchange.run link (poll o.description target p.milliseconds k)
        (sent link target.request n w) := by
  have hwait : wait p o = poll o.description target p.milliseconds p.repeats := by
    unfold wait
    rw [htarget]
  rw [hwait, hrepeats, run_poll_add _ h]

/-- A good end is reported for the replies that say so. -/
theorem reported_eq_ok_iff (hends : ¬target.GoesOn r) :
    ((said what target r).map fun _ => ()) = .ok () ↔ target.Succeeds r := by
  rw [← said_eq_true_iff what]
  have hon := (said_eq_false_iff what).not.2 hends
  cases hsaid : said what target r with
  | error e => constructor <;> intro h <;> cases h
  | ok finished =>
    cases finished with
    | false => exact absurd hsaid hon
    | true => exact ⟨fun _ => rfl, fun _ => rfl⟩

/-- The failure that is reported is the one that the reply stands for. -/
theorem reported_eq_error_iff : ((said what target r).map fun _ => ()) = .error e ↔
    Fails what target r e := by
  rw [← said_eq_error_iff]
  cases said what target r <;> simp [Except.map]

/-! ## Changes and their ends -/

/-- A change sends one request, and the reply to it says what becomes of it. -/
theorem run_start {request : Request} (what : String) (hreply : (link request w).1 = .ok r) :
    Exchange.run link (start what request) w = (Operation.ofReply what r, (link request w).2) := by
  obtain ⟨w', hlink⟩ := exists_answered hreply
  simp only [start, Exchange.run, hlink]

/-- Whether an operation is the one that a reply to a change announces: its end is asked for where
the first header says, else where the reply of status 202 says, else not at all. -/
structure Announces (what : String) (r : Reply) (o : Operation) : Prop where
  /-- It is named after what was asked for. -/
  description : o.description = what
  /-- The address of a status document comes first. -/
  status : ∀ url, r.header? "Azure-AsyncOperation" = some url → o.poll = some (.status url)
  /-- A place counts for a reply that the change was accepted. -/
  location : r.header? "Azure-AsyncOperation" = none → r.status = 202 →
    o.poll = (r.header? "Location").map .location
  /-- All other changes have been made. -/
  complete : r.header? "Azure-AsyncOperation" = none → r.status ≠ 202 → o.poll = none

/-- What a reply that reports success announces. -/
theorem announces_of_success (what : String) (h : r.success = true) :
    ∃ o, Operation.ofReply what r = .ok o ∧ Announces what r o := by
  refine ⟨⟨what, Operation.pollOf r⟩, ?_, rfl, fun url hurl => ?_, fun hnone h202 =>
    ?_, fun hnone hother => ?_⟩
  · unfold Operation.ofReply
    rw [Reply.checked_of_success h]
    rfl
  · show Operation.pollOf r = _
    unfold Operation.pollOf Operation.statusHeader
    rw [hurl]
  · show Operation.pollOf r = _
    unfold Operation.pollOf Operation.statusHeader Operation.locationHeader
    rw [hnone]
    exact if_pos h202
  · show Operation.pollOf r = _
    unfold Operation.pollOf Operation.statusHeader
    rw [hnone]
    exact if_neg hother

/-- A reply to a change is the failure of its status, or announces an operation. Waiting for an
operation that has ended asks nothing. Waiting for another one asks until a reply does not say that
it goes on; it reports a good end exactly when that reply does, and else the failure that the reply
stands for. It gives up when it has asked as often as it may. -/
theorem wait_reports (link : Link AzureError ω) :
    (∀ what request w r, (link request w).1 = .ok r →
      (r.success = false → Exchange.run link (start what request) w =
        (.error (.ofStatus r.status (what ++ ": " ++ r.text)), (link request w).2)) ∧
      (r.success = true → ∃ o, Announces what r o ∧
        Exchange.run link (start what request) w = (.ok o, (link request w).2))) ∧
    (∀ p o w, o.poll = none → Exchange.run link (wait p o) w = (.ok (), w)) ∧
    (∀ p o w target n, o.poll = some target → n ≤ p.repeats → GoesOnFor link target n w →
      (∀ r, (link target.request (sent link target.request n w)).1 = .ok r → ¬target.GoesOn r →
        ((Exchange.run link (wait p o) w).1 = .ok () ↔ target.Succeeds r) ∧
        (∀ e, (Exchange.run link (wait p o) w).1 = .error e ↔ Fails o.description target r e) ∧
        (Exchange.run link (wait p o) w).2 = sent link target.request (n + 1) w) ∧
      (∀ e, (link target.request (sent link target.request n w)).1 = .error e →
        Exchange.run link (wait p o) w = (.error e, sent link target.request (n + 1) w))) ∧
    (∀ p o w target, o.poll = some target → GoesOnFor link target (p.repeats + 1) w →
      Exchange.run link (wait p o) w =
        (.error (timedOut o.description p.milliseconds),
          sent link target.request (p.repeats + 1) w)) := by
  refine ⟨?starts, ?ended, ?asks, ?givesUp⟩
  case starts =>
    intro what request w r hreply
    rw [run_start what hreply]
    refine ⟨fun hrefused => ?_, fun hsuccess => ?_⟩
    · unfold Operation.ofReply
      rw [Reply.checked_of_not_success hrefused]
      rfl
    · obtain ⟨o, ho, hannounces⟩ := announces_of_success what hsuccess
      exact ⟨o, hannounces, by rw [ho]⟩
  case ended =>
    intro p o w hnone
    unfold wait
    rw [hnone]
    rfl
  case asks =>
    intro p o w target n htarget hn hgoes
    obtain ⟨k, hk⟩ := Nat.exists_eq_add_of_le hn
    have hrun := run_wait_add htarget hk hgoes
    refine ⟨fun r hreply hends => ?_, fun e hlost => ?_⟩
    · rw [hrun, run_poll_of_reply hreply hends, sent_succ]
      exact ⟨reported_eq_ok_iff hends, fun e => reported_eq_error_iff, rfl⟩
    · rw [hrun, run_poll_of_lost hlost, sent_succ]
  case givesUp =>
    intro p o w target htarget hgoes
    obtain ⟨r, hreply, hr⟩ := hgoes p.repeats (Nat.lt_succ_self _)
    have hbefore : GoesOnFor link target p.repeats w := fun k hk => hgoes k (Nat.lt_succ_of_lt hk)
    rw [run_wait_add htarget (Nat.add_zero _).symm hbefore, run_poll_of_goesOn hreply hr, sent_succ]

/-! ## The end of one deletion -/

/-- A link that gives the replies of a list one after the other, whatever is asked. -/
def playing : Link AzureError (List Reply)
  | _, [] => (.error .transport, [])
  | _, r :: rest => (.ok r, rest)

/-- A reply with two headers that name places to ask at. -/
def acceptedReply : Reply :=
  { status := 202, headers := [("location", "https://cloud/place"),
    ("azure-asyncoperation", "https://cloud/status")] }

/-- A reply with a status document. -/
def statusReply (document : String) : Reply := { status := 200, text := document }

/-- The deletion of a disk is asked about at the address of its status document, goes on for two
replies and fails with the reason in the third one. -/
theorem wait_reports_deletion :
    (∃ o, Announces "delete disk etcd2" acceptedReply o ∧
      Exchange.run playing (start "delete disk etcd2" (.delete "https://cloud/etcd2"))
        [acceptedReply] = (.ok o, [])) ∧
    (Exchange.run playing (wait {} ⟨"delete disk etcd2", some (.status "https://cloud/status")⟩)
      [statusReply "\x7b\"status\":\"InProgress\"\x7d",
        statusReply "\x7b\"status\":\"Deleting\"\x7d",
        statusReply "\x7b\"error\":\x7b\"code\":\"Busy\"\x7d,\"status\":\"Failed\"\x7d",
          acceptedReply]).1 =
      .error (.operationFailed "delete disk etcd2: \x7b\"code\":\"Busy\"\x7d") := by
  obtain ⟨hstart, -, hasks, -⟩ := wait_reports playing
  have hread (text : String) (d : StatusDocument)
      (h : (Json.Written.parse? text).bind StatusDocument.read = some d) :
      (statusReply text).decoded StatusDocument.read = .ok d := by
    unfold Reply.decoded statusReply
    rw [h]
  refine ⟨(hstart _ _ _ acceptedReply rfl).2 (by decide), ?_⟩
  have hfailed := hread "\x7b\"error\":\x7b\"code\":\"Busy\"\x7d,\"status\":\"Failed\"\x7d"
    ⟨"Failed", some (.obj [("code", .str "Busy")])⟩ (by decide +kernel)
  refine ((hasks _ _ _ (.status "https://cloud/status") 2 rfl (by decide) ?_).1 _ rfl ?_).2.1 _ |>.2
    (.ended rfl hfailed (Or.inl rfl))
  · intro k hk
    obtain rfl | rfl : k = 0 ∨ k = 1 := by omega
    · exact ⟨_, rfl, rfl, ⟨"InProgress", none⟩, hread _ _ (by decide +kernel), by decide⟩
    · exact ⟨_, rfl, rfl, ⟨"Deleting", none⟩, hread _ _ (by decide +kernel), by decide⟩
  · rintro ⟨-, d, hd, hstatus⟩
    rw [hfailed] at hd
    cases hd
    exact hstatus (by decide)

end CloudService

end TenantFleet
