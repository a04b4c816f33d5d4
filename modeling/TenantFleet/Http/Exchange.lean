/-
# Exchanges

An exchange with a server is over, or sends a request and goes on with the reply, whatever it is. A
request that gets no reply ends the exchange with the failure of the link. So what holds of an
exchange for all replies holds with every server.

* `Exchange.run` : an exchange over a link to servers;
* `Exchange.run_bind` : a run of two exchanges in a row is a run of each.
-/
import TenantFleet.Http.Message

namespace TenantFleet.Http

/-- An exchange with a result or a failure of the given types. -/
inductive Exchange (ε α : Type) : Type
  /-- The exchange is over. -/
  | done (result : Except ε α)
  /-- The exchange sends a request and goes on with the reply. -/
  | send (request : Request) (resume : Reply → Exchange ε α)

namespace Exchange

variable {ε α β γ : Type}

instance [Inhabited α] : Inhabited (Exchange ε α) := ⟨done (.ok default)⟩

/-- The exchange that is over, with a result. -/
def ok (a : α) : Exchange ε α := done (.ok a)

/-- The exchange that is over, with a failure. -/
def fail (e : ε) : Exchange ε α := done (.error e)

/-- The first exchange, then the one that its result leads to; a failure ends both. -/
def bind : Exchange ε α → (α → Exchange ε β) → Exchange ε β
  | done (.ok a), next => next a
  | done (.error e), _ => done (.error e)
  | send request resume, next => send request fun r => (resume r).bind next

/-- The exchange with its result changed. -/
def map (f : α → β) (x : Exchange ε α) : Exchange ε β := x.bind fun a => ok (f a)

@[simp] theorem ok_bind (a : α) (next : α → Exchange ε β) : (ok a).bind next = next a := rfl

@[simp] theorem fail_bind (e : ε) (next : α → Exchange ε β) : (fail e).bind next = fail e := rfl

@[simp] theorem send_bind (r : Request) (resume : Reply → Exchange ε α) (next : α → Exchange ε β) :
    (send r resume).bind next = send r fun reply => (resume reply).bind next := rfl

/-- Three exchanges in a row need no brackets. -/
theorem bind_assoc (x : Exchange ε α) (f : α → Exchange ε β) (g : β → Exchange ε γ) :
    (x.bind f).bind g = x.bind fun a => (f a).bind g := by
  induction x with
  | done r => cases r <;> rfl
  | send request resume ih => simp only [send_bind, ih]

end Exchange

/-! ## Links -/

/-- A link to servers: a request is answered by a reply or a failure, and changes the state of the
link. -/
abbrev Link (ε ω : Type) := Request → ω → Except ε Reply × ω

namespace Exchange

variable {ε α β ω : Type}

/-- The result of an exchange over a link, and the state after it. -/
def run (link : Link ε ω) : Exchange ε α → ω → Except ε α × ω
  | done r, w => (r, w)
  | send request resume, w =>
    match link request w with
    | (.ok reply, w) => run link (resume reply) w
    | (.error e, w) => (.error e, w)

@[simp] theorem run_ok (link : Link ε ω) (a : α) (w : ω) : run link (ok a) w = (.ok a, w) := rfl

@[simp] theorem run_fail (link : Link ε ω) (e : ε) (w : ω) :
    run link (fail e : Exchange ε α) w = (.error e, w) := rfl

/-- Running two exchanges in a row is running the second after the first. -/
theorem run_bind (link : Link ε ω) (x : Exchange ε α) (next : α → Exchange ε β) (w : ω) :
    run link (x.bind next) w =
      match run link x w with
      | (.ok a, w') => run link (next a) w'
      | (.error e, w') => (.error e, w') := by
  induction x generalizing w with
  | done r => cases r <;> rfl
  | send request resume ih =>
    simp only [send_bind, run]
    split
    · exact ih _ _
    · rfl

end Exchange

end TenantFleet.Http
