/-
# Lists that come in pages

A list is read page by page, each page naming the next one. What comes of it is told by the chain of
its pages: when all of them can be had, it is their items in the order of the chain, and each page
was asked for once; when one of them cannot, it is the failure of that page, and none of the items.
All this holds over every link to servers, and for chains of any length.

* `Page.Stands` : that a page stands in a document;
* `Gives` and `run_fetch_eq_iff` : what asking for a page comes to;
* `collect_eq` : that reading on takes one page after the other;
* `Chain` : the pages from a request on, up to the last one or to one that cannot be had;
* `recording` : a link that keeps the requests that are sent;
* `listFrom_of_chain` : what a list comes to, and what is asked for it.
-/
import Mathlib.Data.List.Forall2
import TenantFleet.Cloud.Service
import TenantFleet.Proofs.Json.Form

namespace TenantFleet

open Http

variable {α ω : Type} {item : Reader α} {link : Link AzureError ω} {what : String} {r : Request}
  {w w' : ω}

/-! ## Pages as they are written -/

namespace Reader

/-- Values are read of items when each is read of its item. -/
theorem mapM_eq_some_iff {docs : List Json.Written} {vs : List α} :
    docs.mapM item = some vs ↔ List.Forall₂ (fun doc a => item doc = some a) docs vs := by
  induction docs generalizing vs with
  | nil =>
    rw [List.mapM_nil, List.forall₂_nil_left_iff]
    exact ⟨fun h => (Option.some.inj h).symm, fun h => congrArg some h.symm⟩
  | cons doc rest ih =>
    rw [List.mapM_cons, List.forall₂_cons_left_iff]
    constructor
    · intro h
      obtain ⟨a, ha, h⟩ := Option.bind_eq_some_iff.1 h
      obtain ⟨others, hothers, h⟩ := Option.bind_eq_some_iff.1 h
      exact ⟨a, others, ha, ih.1 hothers, (Option.some.inj h).symm⟩
    · rintro ⟨a, others, ha, hothers, rfl⟩
      exact Option.bind_eq_some_iff.2 ⟨a, ha, Option.bind_eq_some_iff.2 ⟨others, ih.2 hothers, rfl⟩⟩

/-- A list is read when its items are. -/
theorem list_eq_some_iff {x : Json.Written} {vs : List α} :
    list item x = some vs ↔ ∃ docs, x = .arr docs ∧
    List.Forall₂ (fun doc a => item doc = some a) docs vs := by
  constructor
  · intro h
    unfold list at h
    split at h
    · exact ⟨_, rfl, mapM_eq_some_iff.1 h⟩
    · cases h
  · rintro ⟨docs, rfl, hdocs⟩
    exact mapM_eq_some_iff.2 hdocs

/-- A member that may be missing, where it is written at most once. -/
theorem optional_of_length_le {ms : Members} {name : String} (h : (values ms name).length ≤ 1) :
    optional item ms name =
      match find? ms name with
      | none => some none
      | some x => nullable item x := by
  rw [find?_eq_head?]
  match hvalues : values ms name, h with
  | [], _ =>
    unfold optional
    rw [hvalues]
    rfl
  | [x], _ => exact optional_of_values hvalues

/-- A list that may be missing is read when it is missing or its items are read. -/
theorem defaulted_list_eq_some_iff {ms : Members} {name : String} {vs : List α} :
    defaulted (list item) [] ms name = some vs ↔
      (find? ms name = none ∧ vs = []) ∨
        ∃ docs, find? ms name = some (.arr docs) ∧
        List.Forall₂ (fun doc a => item doc = some a) docs vs := by
  unfold defaulted
  cases find? ms name with
  | none => simp [eq_comm]
  | some x => simp [list_eq_some_iff]

/-- A text that may be missing or null, where it is written at most once. -/
theorem optional_text_eq_some_iff {ms : Members} {name : String} {v : Option String}
    (h : (values ms name).length ≤ 1) :
    optional text ms name = some v ↔
      ((find? ms name = none ∨ find? ms name = some .null) ∧ v = none) ∨
        ∃ s, find? ms name = some (.str s) ∧ v = some s := by
  rw [optional_of_length_le h]
  cases find? ms name with
  | none => simp [eq_comm]
  | some x => cases x <;> simp [nullable, text, eq_comm]

end Reader

namespace Page

/-- Whether members are those of a page: its items are written under `value`, none if that is
missing, and the address of the next page under `nextLink`, none if that is missing or null. -/
structure Holds (item : Reader α) (ms : Reader.Members) (page : Page α) : Prop where
  items : (Reader.find? ms "value" = none ∧ page.items = []) ∨
    ∃ docs, Reader.find? ms "value" = some (.arr docs) ∧
      List.Forall₂ (fun doc a => item doc = some a) docs page.items
  next : ((Reader.find? ms "nextLink" = none ∨ Reader.find? ms "nextLink" = some .null) ∧
    page.next = none) ∨ ∃ url, Reader.find? ms "nextLink" = some (.str url) ∧ page.next = some url

/-- Whether a page stands in a document. -/
def Stands (item : Reader α) (x : Json.Written) (page : Page α) : Prop :=
  ∃ ms, Reader.members ["value", "nextLink"] x = some ms ∧ Holds item ms page

/-- Each member of a page is written at most once. -/
theorem length_values_le {x : Json.Written} {ms : Reader.Members} {name : String}
    (h : Reader.members ["value", "nextLink"] x = some ms) (hname : name ∈ ["value", "nextLink"]) :
    (Reader.values ms name).length ≤ 1 := by
  rcases Reader.members_cases h with ⟨rfl, hunique⟩ | ⟨docs, rfl, rfl⟩
  · exact Reader.unique_iff.1 hunique name hname
  · -- The items of a list are given one name each.
    simp only [List.mem_cons, List.not_mem_nil, or_false] at hname
    match docs with
    | [] => exact Nat.zero_le 1
    | [_] => rcases hname with rfl | rfl <;> simp [Reader.values]
    | _ :: _ :: _ => rcases hname with rfl | rfl <;> simp [Reader.values]

/-- A page is read of a document when it stands there. -/
theorem read_eq_some_iff {x : Json.Written} {page : Page α} :
    read item x = some page ↔ Stands item x page := by
  constructor
  · intro h
    obtain ⟨ms, hms, h⟩ := Option.bind_eq_some_iff.1 h
    obtain ⟨items, hitems, h⟩ := Option.bind_eq_some_iff.1 h
    obtain ⟨next, hnext, h⟩ := Option.bind_eq_some_iff.1 h
    obtain rfl := Option.some.inj h
    have honce := length_values_le hms (List.mem_cons_of_mem _ List.mem_cons_self)
    exact ⟨ms, hms, Reader.defaulted_list_eq_some_iff.1 hitems,
      (Reader.optional_text_eq_some_iff honce).1 hnext⟩
  · rintro ⟨ms, hms, hitems, hnext⟩
    have honce := length_values_le hms (List.mem_cons_of_mem _ List.mem_cons_self)
    have hitems := Reader.defaulted_list_eq_some_iff.2 hitems
    have hnext := (Reader.optional_text_eq_some_iff honce).2 hnext
    exact Option.bind_eq_some_iff.2 ⟨ms, hms, Option.bind_eq_some_iff.2 ⟨_, hitems,
      Option.bind_eq_some_iff.2 ⟨_, hnext, rfl⟩⟩⟩

end Page

namespace CloudService

/-! ## Asking for a page -/

/-- What asking for a page comes to, and the state of the link after it. -/
inductive Gives (link : Link AzureError ω) (item : Reader α) (what : String) (r : Request) (w : ω) :
    Except AzureError (Page α) → ω → Prop
  /-- The reply reports success, and the page stands in it. -/
  | page {reply : Reply} {x : Json.Written} {page : Page α} {w' : ω}
      (hreply : link r w = (.ok reply, w'))
      (hsuccess : reply.success = true) (hparse : Json.Written.parse? reply.text = some x)
      (hpage : Page.Stands item x page) : Gives link item what r w (.ok page) w'
  /-- There is no reply. -/
  | lost {e : AzureError} {w' : ω} (hlost : link r w = (.error e, w')) :
      Gives link item what r w (.error e) w'
  /-- The reply does not report success. -/
  | refused {reply : Reply} {w' : ω} (hreply : link r w = (.ok reply, w'))
      (hsuccess : reply.success = false) :
      Gives link item what r w (.error (.ofStatus reply.status (what ++ ": " ++ reply.text))) w'
  /-- No page stands in the reply. -/
  | undecodable {reply : Reply} {w' : ω} (hreply : link r w = (.ok reply, w'))
      (hsuccess : reply.success = true)
      (hnone : ∀ x page, Json.Written.parse? reply.text = some x → ¬Page.Stands item x page) :
      Gives link item what r w (.error .undecodable) w'

/-- Asking for a page sends one request, and the reply to it is all that counts. -/
theorem run_fetch (link : Link AzureError ω) (item : Reader α) (what : String)
    (r : Request) (w : ω) :
    Exchange.run link (fetch (Page.read item) what r) w =
      match link r w with
      | (.ok reply, w') => (reply.document (Page.read item) what, w')
      | (.error e, w') => (.error e, w') := by
  simp only [fetch, Exchange.run]
  rcases link r w with ⟨e | reply, w'⟩ <;> rfl

/-- What asking for a page comes to is told by the reply and by what stands in it. -/
theorem run_fetch_eq_iff {answer : Except AzureError (Page α)} :
    Exchange.run link (fetch (Page.read item) what r) w = (answer, w') ↔
    Gives link item what r w answer w' := by
  rw [run_fetch]
  constructor
  · intro h
    rcases hlink : link r w with ⟨e | reply, w''⟩
    · rw [hlink] at h
      obtain ⟨rfl, rfl⟩ := Prod.mk.inj h
      exact .lost hlink
    · rw [hlink] at h
      obtain ⟨rfl, rfl⟩ := Prod.mk.inj h
      cases hsuccess : reply.success with
      | false =>
        rw [Reply.document_of_not_success hsuccess]
        exact .refused hlink hsuccess
      | true =>
        rw [Reply.document_of_success hsuccess, Reply.decoded]
        cases hread : (Json.Written.parse? reply.text).bind (Page.read item) with
        | none =>
          refine .undecodable hlink hsuccess fun x page hparse hpage => ?_
          rw [hparse, Option.bind_some, Page.read_eq_some_iff.2 hpage] at hread
          cases hread
        | some page =>
          obtain ⟨x, hparse, hpage⟩ := Option.bind_eq_some_iff.1 hread
          exact .page hlink hsuccess hparse (Page.read_eq_some_iff.1 hpage)
  · intro h
    cases h with
    | page hreply hsuccess hparse hpage =>
      rw [hreply]
      dsimp only
      rw [Reply.document_of_success hsuccess, Reply.decoded, hparse, Option.bind_some,
        Page.read_eq_some_iff.2 hpage]
    | lost hlost => rw [hlost]
    | refused hreply hsuccess =>
      rw [hreply]
      dsimp only
      rw [Reply.document_of_not_success hsuccess]
    | @undecodable reply _ hreply hsuccess hnone =>
      have hread : (Json.Written.parse? reply.text).bind (Page.read item) = none := by
        refine Option.eq_none_iff_forall_ne_some.2 fun page hread => ?_
        obtain ⟨x, hparse, hpage⟩ := Option.bind_eq_some_iff.1 hread
        exact hnone x page hparse (Page.read_eq_some_iff.1 hpage)
      rw [hreply]
      dsimp only
      rw [Reply.document_of_success hsuccess, Reply.decoded, hread]

/-! ## Reading on -/

/-- Reading on takes one turn, and then another one unless the list is at its end. -/
theorem collect_eq_turn (link : Link AzureError ω) (item : Reader α) (what : String)
    (items : List α) (r : Request) (w : ω) :
    collect link item what items r w =
      match turn link item what (items, r) w with
      | (.inl (items', r'), w') => collect link item what items' r' w'
      | (.inr answer, w') => (answer, w') := by
  -- The equation of a loop asks for a state to exist, and `w` is one.
  have : Nonempty ω := ⟨w⟩
  unfold collect
  rw [repeatM_eq_of_monadTail]
  change StateT.bind (turn link item what (items, r)) _ w = _
  unfold StateT.bind
  rcases turn link item what (items, r) w with ⟨⟨items', r'⟩ | answer, w'⟩ <;> rfl

/-- Reading on asks for a page, and goes on with the page that this one names, if it names one. -/
theorem collect_eq (link : Link AzureError ω) (item : Reader α) (what : String) (items : List α)
    (r : Request) (w : ω) :
    collect link item what items r w =
      match Exchange.run link (fetch (Page.read item) what r) w with
      | (.error e, w') => (.error e, w')
      | (.ok page, w') =>
        match page.next with
        | none => (.ok (items ++ page.items), w')
        | some url => collect link item what (items ++ page.items) (.get url) w' := by
  rw [collect_eq_turn]
  dsimp only [turn]
  rcases Exchange.run link (fetch (Page.read item) what r) w with ⟨e | page, w'⟩
  · rfl
  · dsimp only
    cases page.next <;> rfl

/-! ## Chains of pages -/

/-- The chain of pages from a request on: each page names the next one, and the last one names none.
The chain ends too at a page that cannot be had, with the failure. The pages are those that were
had; at the end the link is in the last state. -/
inductive Chain (link : Link AzureError ω) (item : Reader α) (what : String) :
    Request → ω → List (Page α) → Option AzureError → ω → Prop
  /-- The last page. -/
  | last {r : Request} {w w' : ω} {page : Page α} (hpage : Gives link item what r w (.ok page) w')
      (hlast : page.next = none) : Chain link item what r w [page] none w'
  /-- A page that names the next one. -/
  | next {r : Request} {w w' w'' : ω} {page : Page α} {url : String} {rest : List (Page α)}
      {failure : Option AzureError} (hpage : Gives link item what r w (.ok page) w')
      (hnext : page.next = some url) (hrest : Chain link item what (.get url) w' rest failure w'') :
      Chain link item what r w (page :: rest) failure w''
  /-- A page that cannot be had. -/
  | broken {r : Request} {w w' : ω} {e : AzureError}
      (hfailed : Gives link item what r w (.error e) w') :
      Chain link item what r w [] (some e) w'

variable {pages : List (Page α)} {failure : Option AzureError}

/-- The items of a chain's pages are put behind those at hand, in the order of the chain; a failure
leaves none. -/
theorem collect_of_chain (h : Chain link item what r w pages failure w') (items : List α) :
    collect link item what items r w =
      (failure.elim (.ok (items ++ pages.flatMap Page.items)) .error, w') := by
  induction h generalizing items with
  | last hpage hlast =>
    rw [collect_eq, run_fetch_eq_iff.2 hpage]
    dsimp only
    rw [hlast, List.flatMap_singleton]
    rfl
  | @next _ _ _ _ _ _ _ failure hpage hnext hrest ih =>
    rw [collect_eq, run_fetch_eq_iff.2 hpage]
    dsimp only
    rw [hnext]
    dsimp only
    rw [ih, List.flatMap_cons, List.append_assoc]
  | broken hfailed =>
    rw [collect_eq, run_fetch_eq_iff.2 hfailed]
    rfl

/-! ## Requests for pages -/

/-- A link that keeps the requests that are sent. -/
def recording (link : Link AzureError ω) : Link AzureError (ω × List Request) := fun r s =>
  ((link r s.1).1, (link r s.1).2, s.2 ++ [r])

/-- The requests for the pages of a chain: the first one, and one at each address that a page
names. -/
def requestsFor (r : Request) (pages : List (Page α)) : List Request :=
  r :: (pages.filterMap Page.next).map .get

/-- A request is kept, and answered as before. -/
theorem recording_of_eq {answer : Except AzureError Reply} (h : link r w = (answer, w'))
    (sent : List Request) :
    recording link r (w, sent) = (answer, w', sent ++ [r]) := by
  unfold recording
  rw [h]

/-- Keeping requests changes no answer. -/
theorem Gives.recorded {answer : Except AzureError (Page α)}
    (h : Gives link item what r w answer w')
    (sent : List Request) :
    Gives (recording link) item what r (w, sent) answer (w', sent ++ [r]) := by
  cases h with
  | page hreply hsuccess hparse hpage =>
    exact .page (recording_of_eq hreply sent) hsuccess hparse hpage
  | lost hlost => exact .lost (recording_of_eq hlost sent)
  | refused hreply hsuccess => exact .refused (recording_of_eq hreply sent) hsuccess
  | undecodable hreply hsuccess hnone =>
    exact .undecodable (recording_of_eq hreply sent) hsuccess hnone

/-- For each page of a chain one request is sent, in the order of the chain. -/
theorem Chain.recorded (h : Chain link item what r w pages failure w') (sent : List Request) :
    Chain (recording link) item what r (w, sent) pages failure
      (w', sent ++ requestsFor r pages) := by
  induction h generalizing sent with
  | @last r _ _ page hpage hlast =>
    have hrequests : requestsFor r [page] = [r] := by
      unfold requestsFor
      rw [List.filterMap_cons_none hlast]
      rfl
    rw [hrequests]
    exact .last (hpage.recorded sent) hlast
  | @next r _ _ _ page url rest _ hpage hnext _ ih =>
    have hrequests : requestsFor r (page :: rest) = r :: requestsFor (.get url) rest := by
      unfold requestsFor
      rw [List.filterMap_cons_some hnext]
      rfl
    rw [hrequests, List.append_cons]
    exact .next (hpage.recorded sent) hnext (ih _)
  | broken hfailed => exact .broken (hfailed.recorded sent)

/-! ## Lists -/

/-- A list whose pages can all be had is their items, in the order of the chain; when one of them
cannot be had, the failure is what the list comes to. Each page was asked for once, in the order of
the chain, and nothing else. -/
theorem listFrom_of_chain (h : Chain link item what r w pages failure w') (sent : List Request) :
    listFrom link item what r w = (failure.elim (.ok (pages.flatMap Page.items)) .error, w') ∧
    listFrom (recording link) item what r (w, sent) =
      (failure.elim (.ok (pages.flatMap Page.items)) .error, w', sent ++ requestsFor r pages) := by
  unfold listFrom
  exact ⟨collect_of_chain h [], collect_of_chain (h.recorded sent) []⟩

/-! ## A list of three pages -/

/-- A server that gives one reply at each of some addresses. -/
def serving (replies : List (String × Reply)) : Link AzureError Unit := fun r w =>
  (((replies.lookup r.url).map Except.ok).getD (.error .transport), w)

/-- A disk with a name and a region. -/
def plainDisk (name : String) : Disk := { name? := some name, location := "eu" }

/-- The replies with the pages of a list of disks, of which the second one is empty and the last one
is given. -/
def diskPages (last : Reply) : List (String × Reply) := [
  ("https://cloud/1", { status := 200, text :=
    "\x7b\"value\":[\x7b\"name\":\"etcd1\",\"location\":\"eu\"\x7d]," ++
      "\"nextLink\":\"https://cloud/2\"\x7d" }),
  ("https://cloud/2",
    { status := 200, text := "\x7b\"value\":[],\"nextLink\":\"https://cloud/3\"\x7d" }),
  ("https://cloud/3", last)]

/-- The first two pages. -/
def firstPages : List (Page Disk) :=
  [⟨[plainDisk "etcd1"], some "https://cloud/2"⟩, ⟨[], some "https://cloud/3"⟩]

/-- A page that a server gives. -/
theorem gives_serving {replies : List (String × Reply)} {url text : String} {page : Page α}
    (hreply : replies.lookup url = some { status := 200, text := text })
    (hread : (Json.Written.parse? text).bind (Page.read item) = some page) :
    Gives (serving replies) item what (.get url) () (.ok page) () := by
  obtain ⟨x, hparse, hpage⟩ := Option.bind_eq_some_iff.1 hread
  have hserved : serving replies (.get url) () = (.ok { status := 200, text := text }, ()) := by
    unfold serving Request.get
    rw [hreply]
    rfl
  exact .page hserved rfl hparse (Page.read_eq_some_iff.1 hpage)

/-- The first two pages lead on to the last one. -/
theorem chain_diskPages {last : Reply} {rest : List (Page Disk)} {failure : Option AzureError}
    (h : Chain (serving (diskPages last)) Disk.read what (.get "https://cloud/3") () rest
      failure ()) :
    Chain (serving (diskPages last)) Disk.read what (.get "https://cloud/1") ()
      (firstPages ++ rest) failure () := by
  have hfirst : Gives (serving (diskPages last)) Disk.read what (.get "https://cloud/1") ()
      (.ok ⟨[plainDisk "etcd1"], some "https://cloud/2"⟩) () :=
    gives_serving rfl (by decide +kernel)
  have hsecond : Gives (serving (diskPages last)) Disk.read what (.get "https://cloud/2") ()
      (.ok ⟨[], some "https://cloud/3"⟩) () := gives_serving rfl (by decide +kernel)
  exact .next hfirst rfl (.next hsecond rfl h)

/-- The reply with the last page. -/
def lastReply : Reply :=
  { status := 200, text := "\x7b\"value\":[\x7b\"name\":\"etcd2\",\"location\":\"eu\"\x7d]\x7d" }

/-- The reply of a server that is busy. -/
def busyReply : Reply := { status := 503, text := "busy" }

/-- The disks of the first and of the last page are listed, with one request for each page; and when
the last page cannot be had, none of them is. -/
theorem listFrom_of_chain_disks :
    Chain (serving (diskPages lastReply)) Disk.read "list disks" (.get "https://cloud/1") ()
      (firstPages ++ [⟨[plainDisk "etcd2"], none⟩]) none () ∧
    listFrom (recording (serving (diskPages lastReply))) Disk.read "list disks"
      (.get "https://cloud/1") ((), []) = (.ok [plainDisk "etcd1", plainDisk "etcd2"], (),
        [.get "https://cloud/1", .get "https://cloud/2", .get "https://cloud/3"]) ∧
    Chain (serving (diskPages busyReply)) Disk.read "list disks" (.get "https://cloud/1") ()
      (firstPages ++ []) (some (.ofStatus 503 "list disks: busy")) () ∧
    listFrom (serving (diskPages busyReply)) Disk.read "list disks" (.get "https://cloud/1") () =
      (.error (.ofStatus 503 "list disks: busy"), ()) := by
  have hlast : Chain (serving (diskPages lastReply)) Disk.read "list disks"
      (.get "https://cloud/1") () (firstPages ++ [⟨[plainDisk "etcd2"], none⟩]) none () :=
    chain_diskPages (.last (gives_serving rfl (by decide +kernel)) rfl)
  have hrefused : Gives (serving (diskPages busyReply)) Disk.read "list disks"
      (.get "https://cloud/3") ()
      (.error (.ofStatus busyReply.status ("list disks" ++ ": " ++ busyReply.text))) () :=
    .refused rfl rfl
  have hbusy : Chain (serving (diskPages busyReply)) Disk.read "list disks"
      (.get "https://cloud/1") () (firstPages ++ []) (some (.ofStatus 503 "list disks: busy")) () :=
    chain_diskPages (.broken hrefused)
  exact ⟨hlast, (listFrom_of_chain hlast []).2, hbusy, (listFrom_of_chain hbusy []).1⟩

end CloudService

end TenantFleet
