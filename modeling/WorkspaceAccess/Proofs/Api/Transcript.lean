import WorkspaceAccess.Api.Collection

/-!
# Transcripts of Exchanges

The transcript of an exchange is what it sends in a network and what it is replied, in order. It is
read off the run of the exchange, so that a statement about every network is one about every
sequence of replies. An exchange is a tree that branches on replies; its transcript is one path
through the tree, and the run is what stands at the end of the path.

The equations for the three constructors of an exchange are simplification rules, so that the run
and the transcript of an operation that is built from a few requests are computed from the replies.
A network that has its replies laid down beforehand (`Network.scripted`) is what examples use.

Operations on a collection are one request each. What the request says is a matter of the reply
alone: an object that decodes, an error of the server, or nothing at all where no reply came
(`Exchange.answer`).

## Main results

* `run_send`, `transcript_send` and the like: what each constructor sends and leads to.
* `request_some`: a request that can be built is sent, and its reply is read.
* `Collection.get?_eq_map`: looking an object up reads what getting it says, with an absence for no
  object.
-/

namespace WorkspaceAccess

/-- Requests and what they were replied, in order. -/
abbrev Transcript := List (Request × Option Reply)

variable {s α β : Type}

/-- Replies as they were laid down, in order, whatever is asked; none when they are used up. -/
def Network.scripted (wall : Timestamp) : Network (List Reply) where
  answer _ replies := (replies.head?, replies.tail)
  wall _ := wall

namespace Exchange

/-- What an exchange sends in a network and what it is replied. -/
def transcript (net : Network s) : Exchange α → s → Transcript
  | done _, _ => []
  | look next, state => (next (net.wall state)).transcript net state
  | send request next, state =>
    let (reply, state) := net.answer request state
    (request, reply) :: (next reply).transcript net state

/-- An exchange that is over sends nothing and leaves the network as it is. -/
@[simp] theorem run_done (net : Network s) (a : α) (state : s) :
    (done a).run net state = (a, state) := rfl

/-- Looking at the clock is no request, so that the network stays as it is. -/
@[simp] theorem run_look (net : Network s) (next : Timestamp → Exchange α) (state : s) :
    (look next).run net state = (next (net.wall state)).run net state := rfl

/-- After a request the exchange goes on with the reply, in the network that the request left
behind. -/
@[simp] theorem run_send (net : Network s) (r : Request) (next : Option Reply → Exchange α)
    (state : s) :
    (send r next).run net state = (next (net.answer r state).1).run net (net.answer r state).2 :=
  rfl

/-- Where nothing is sent the transcript is empty, whatever the result is. -/
@[simp] theorem transcript_done (net : Network s) (a : α) (state : s) :
    (done a).transcript net state = [] := rfl

/-- Looking at the clock does not show in the transcript. -/
@[simp] theorem transcript_look (net : Network s) (next : Timestamp → Exchange α) (state : s) :
    (look next).transcript net state = (next (net.wall state)).transcript net state := rfl

/-- A request stands in the transcript with the reply to it, and before all that follows. -/
@[simp] theorem transcript_send (net : Network s) (r : Request)
    (next : Option Reply → Exchange α) (state : s) :
    (send r next).transcript net state =
      (r, (net.answer r state).1) ::
        (next (net.answer r state).1).transcript net (net.answer r state).2 := rfl

/-- What the reply to a request says, read by a decoder. -/
def answer (decode : Json → Option α) : Option Reply → Except ApiError α
  | none => .error .undelivered
  | some reply => reply.decode decode

/-- A request that can be built is sent, and its reply is read. -/
theorem request_some (decode : Json → Option α) (r : Request) :
    request decode (some r) = send r fun reply => done (answer decode reply) := by
  refine congrArg (send r) (funext fun reply => ?_)
  cases reply <;> rfl

end Exchange

namespace Network

/-- What the reply to a request says, read by a decoder. -/
def told (net : Network s) (decode : Json → Option α) (r : Request) (state : s) :
    Except ApiError α :=
  Exchange.answer decode (net.answer r state).1

/-- The state that a request leaves behind, whether or not its reply is delivered. -/
def after (net : Network s) (r : Request) (state : s) : s := (net.answer r state).2

end Network

namespace Collection

/-- The object that is there, if the server does not say that there is none. -/
def unlessAbsent : Except ApiError α → Except ApiError (Option α)
  | .ok a => .ok (some a)
  | .error e => if e.isAbsence then .ok none else .error e

/-- Looking an object up reads what getting it says. -/
theorem get?_eq_map (c : Collection α) (name : String) :
    c.get? name = (c.get name).map unlessAbsent := by
  refine congrArg (c.get name).map (funext fun answer => ?_)
  cases answer <;> rfl

end Collection

end WorkspaceAccess
