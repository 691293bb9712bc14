import WorkspaceAccess.Api.Refusal
import WorkspaceAccess.Time.Timestamp

/-!
# Exchanges with Servers

An exchange is a course of requests, each of which may depend on the replies before it, and on the
calendar. It ends with a result. A request that is not delivered has no reply, and what follows then
is up to the exchange.

Exchanges are plain data: a tree whose nodes are requests and whose branches are the possible
replies. What an exchange does is thereby separated from what servers do. The same exchange can be
run against a server that is simulated, compared with another exchange request by request, or
examined for every conceivable sequence of replies, which is how
`WorkspaceAccess.Proofs.Api.Transcript` states what clients send.

A `Network` says what becomes of requests; `Exchange.run` is the course that an exchange takes in
it. Exchanges are composed by `bind`, and with results that may be failures by `andThen`.

## Main results

* `Exchange.run_bind`: the run of a composed exchange is the run of its first part followed by that
  of the second, from the state that the first one has left. Every proof about a composed exchange
  takes its run apart by this.
-/

namespace WorkspaceAccess

/-- A course of requests that ends with a result, as a tree that branches over the replies. -/
inductive Exchange (α : Type) where
  /-- The end, with its result. -/
  | done (result : α)
  /-- Looks at the calendar, and goes on by what it shows. -/
  | look (next : Timestamp → Exchange α)
  /-- Sends a request and goes on with the reply, if there is one. -/
  | send (request : Request) (next : Option Reply → Exchange α)

/-- What becomes of requests, with states of type `s`: of the servers, of the connection to them,
and of the calendar. -/
structure Network (s : Type) where
  /-- The reply to a request, if it is delivered, and the state afterwards. A request without a
  reply may have had its effect. -/
  answer : Request → s → Option Reply × s
  /-- The time of the calendar. -/
  wall : s → Timestamp

namespace Exchange

variable {s α β : Type}

/-- Goes on with the result of an exchange: the second exchange starts where the first one ends. -/
def bind : Exchange α → (α → Exchange β) → Exchange β
  | done a, f => f a
  | look next, f => look fun now => (next now).bind f
  | send request next, f => send request fun reply => (next reply).bind f

/-- Changes the result of an exchange and none of its requests. -/
def map (f : α → β) (e : Exchange α) : Exchange β := e.bind fun a => done (f a)

/-- Goes on with a success, and ends with a failure. -/
def andThen {ε : Type} (e : Exchange (Except ε α)) (f : α → Exchange (Except ε β)) :
    Exchange (Except ε β) :=
  e.bind fun
    | .ok a => f a
    | .error err => done (.error err)

/-- Changes the failure of an exchange. -/
def mapError {ε δ : Type} (f : ε → δ) (e : Exchange (Except ε α)) : Exchange (Except δ α) :=
  e.map (·.mapError f)

/-- The result of an exchange in a network, and the state of the network afterwards. Looking at the
calendar changes nothing; every request goes through `Network.answer`, in order. -/
def run (net : Network s) : Exchange α → s → α × s
  | done a, state => (a, state)
  | look next, state => (next (net.wall state)).run net state
  | send request next, state =>
    let (reply, state) := net.answer request state
    (next reply).run net state

/-- A composed exchange runs through its first part and then, from the state that this one has left,
through the part that belongs to its result. -/
theorem run_bind (net : Network s) (e : Exchange α) (f : α → Exchange β) (state : s) :
    (e.bind f).run net state = (f (e.run net state).1).run net (e.run net state).2 := by
  induction e generalizing state with
  | done _ => rfl
  | look _ ih => exact ih _ _
  | send _ _ ih => exact ih _ _

/-- Sends a request and reads the reply. A request that could not be made is an error without a
step, one that is not delivered an error of its own. -/
def request (decode : Json → Option α) : Option Request → Exchange (Except ApiError α)
  | none => done (.error .unbuildable)
  | some r => send r fun
    | none => done (.error .undelivered)
    | some reply => done (reply.decode decode)

end Exchange

end WorkspaceAccess
