import WorkspaceAccess.Proofs.Api.Transcript
import WorkspaceAccess.Remote.Session

/-!
# Attempts to Update a Binding

An attempt reads the binding of a workspace and writes it back: in place of the one that was read,
or as a new one where there was none. It is lost to another writer when the server answers the write
with 404 or 409.

The program of an update is an exchange with a bound on its attempts, and its reads and writes are
operations on a collection of bindings. Here each of them is shown to be a single request
(`get?_eq`, `storeBinding_eq`), whose path is spelled out, so that what is sent and how the reply is
read are two separate things. `Course` then lists the ways in which an update can go, with the
transcript and the result: the read fails, the write succeeds or fails, or the attempt is lost and
there is another one or none left.

So a statement about all updates in all networks is proved by induction on the course, and the
program is not looked at again.

## Main results

* `uri_bindingPath`, `uri_bindingPath_query`, `uri_bindingsPath_query`: the paths of the requests
  are read as they are.
* `get?_eq`: the binding is looked up by one request.
* `storeBinding_eq`: the binding is written by one request.
* `course_of_attempts`: the attempts of an update in a network are a course, by induction on the
  number of attempts that are left.
* `course_of_run`: the update of the binding of a workspace that has an address is a course.
-/

namespace WorkspaceAccess

namespace BindingUpdate

/-! ### Requests and what their replies say -/

/-- The path of the bindings of a workspace, on the logical cluster of that workspace. -/
def bindingsPath : String := ObjectKind.clusterRoleBinding.path none

/-- The path of the access binding of a workspace. -/
def bindingPath : String := bindingsPath ++ "/" ++ AccessBinding.name

/-- Asks for the binding of the workspace, by its fixed name. -/
def readRequest (address : Uri) : Request :=
  ⟨.logicalCluster address, .get, ⟨bindingPath.toList, none⟩, none⟩

/-- Puts an object in place of the binding, under the same path from which it is read. -/
def replaceRequest (address : Uri) (object : Json) : Request :=
  ⟨.logicalCluster address, .put, ⟨bindingPath.toList, some []⟩, some (.object object)⟩

/-- Creates the binding from an object, under the path of all bindings. -/
def createRequest (address : Uri) (object : Json) : Request :=
  ⟨.logicalCluster address, .post, ⟨bindingsPath.toList, some []⟩, some (.object object)⟩

/-- Writes a binding: in place of the one that was read, or as a new one. -/
def writeRequest (address : Uri) (existing : Option ClusterRoleBinding)
    (desired : ClusterRoleBinding) : Request :=
  match existing with
  | some _ => replaceRequest address desired.toJson
  | none => createRequest address desired.toJson

/-- The binding that a reply to a write shows. -/
def written (reply : Option Reply) : Except ApiError ClusterRoleBinding :=
  Exchange.answer ClusterRoleBinding.ofJson? reply

/-- The binding that a reply to a read shows, if the server does not say that there is none. -/
def seen (reply : Option Reply) : Except ApiError (Option ClusterRoleBinding) :=
  Collection.unlessAbsent (written reply)

/-- Another writer was there first: the binding has gone, or is not what it was. -/
def IsLostRace (e : ApiError) : Prop := e.hasCode 404 = true ∨ e.hasCode 409 = true

/-! ### The exchange of an attempt -/

/-- The path of the binding is read as it is. -/
theorem uri_bindingPath :
    Uri.parse? bindingPath = some ⟨none, "", ⟨bindingPath.toList, none⟩⟩ := by
  decide +kernel

/-- So it is in front of an empty query, as a replacement is sent. -/
theorem uri_bindingPath_query :
    Uri.parse? (bindingPath ++ "?" ++ Form.render []) =
      some ⟨none, "", ⟨bindingPath.toList, some []⟩⟩ := by
  decide +kernel

/-- So is the path of the bindings, as a creation is sent. -/
theorem uri_bindingsPath_query :
    Uri.parse? (bindingsPath ++ "?" ++ Form.render []) =
      some ⟨none, "", ⟨bindingsPath.toList, some []⟩⟩ := by
  decide +kernel

/-- The access binding has a path among the bindings, since its name may stand in one. -/
theorem pathOf?_name (address : Uri) :
    (RemoteSession.bindings address).pathOf? AccessBinding.name = some bindingPath :=
  if_neg (by decide)

/-- The binding is looked up by one request, and what is seen depends on its reply alone. -/
theorem get?_eq (address : Uri) :
    (RemoteSession.bindings address).get? AccessBinding.name =
      .send (readRequest address) fun reply => .done (seen reply) := by
  rw [Collection.get?_eq_map, Collection.get, pathOf?_name, Option.bind_some,
    Request.ofTarget?, uri_bindingPath, Option.map_some, Exchange.request_some]
  rfl

/-- The binding is written by one request, the one that fits what was read. -/
theorem storeBinding_eq (address : Uri) (existing : Option ClusterRoleBinding)
    (desired : ClusterRoleBinding) :
    RemoteSession.storeBinding (RemoteSession.bindings address) existing desired =
      .send (writeRequest address existing desired) fun reply => .done (written reply) := by
  cases existing with
  | none =>
    have hpath : (RemoteSession.bindings address).path = bindingsPath := rfl
    show Collection.create _ _ = _
    rw [Collection.create, hpath, Request.ofPath?, Request.ofTarget?, uri_bindingsPath_query,
      Option.map_some, Exchange.request_some]
    rfl
  | some b =>
    show Collection.replace _ _ _ = _
    rw [Collection.replace, Collection.requestOf?, pathOf?_name, Option.bind_some,
      Request.ofPath?, Request.ofTarget?, uri_bindingPath_query, Option.map_some,
      Exchange.request_some]
    rfl

/-! ### Courses of attempts -/

/-- The attempts of an update, as long as so many are left: what is sent and replied, and the
result. -/
inductive Course (session : RemoteSession) (address : Uri) (workspace : String)
    (subjects : List String) : Nat → Transcript → Except RemoteError Unit → Prop
  /-- No attempt is left, and the write is given up as contended. -/
  | exhausted : Course session address workspace subjects 0 [] (.error (.contended workspace))
  /-- The binding cannot be read, which ends the attempts with that error. -/
  | unread {n : Nat} {reply : Option Reply} {e : ApiError} (hread : seen reply = .error e) :
      Course session address workspace subjects (n + 1) [(readRequest address, reply)]
        (.error (.api e))
  /-- The write is accepted, which ends the attempts with success. -/
  | accepted {n : Nat} {reply echo : Option Reply} {existing : Option ClusterRoleBinding}
      {now : Timestamp} {stored : ClusterRoleBinding} (hread : seen reply = .ok existing)
      (hwrite : written echo = .ok stored) :
      Course session address workspace subjects (n + 1)
        [(readRequest address, reply),
          (writeRequest address existing
            (AccessBinding.desired existing subjects session.sourceNamespace now), echo)]
        (.ok ())
  /-- The write is refused for good, which ends the attempts with that error. -/
  | refused {n : Nat} {reply echo : Option Reply} {existing : Option ClusterRoleBinding}
      {now : Timestamp} {e : ApiError} (hread : seen reply = .ok existing)
      (hwrite : written echo = .error e) (hrace : ¬IsLostRace e) :
      Course session address workspace subjects (n + 1)
        [(readRequest address, reply),
          (writeRequest address existing
            (AccessBinding.desired existing subjects session.sourceNamespace now), echo)]
        (.error (.api e))
  /-- Another writer was there first, and the binding is read again. -/
  | lost {n : Nat} {reply echo : Option Reply} {existing : Option ClusterRoleBinding}
      {now : Timestamp} {e : ApiError} {rest : Transcript} {result : Except RemoteError Unit}
      (hread : seen reply = .ok existing) (hwrite : written echo = .error e)
      (hrace : IsLostRace e)
      (hrest : Course session address workspace subjects n rest result) :
      Course session address workspace subjects (n + 1)
        ((readRequest address, reply) ::
          (writeRequest address existing
            (AccessBinding.desired existing subjects session.sourceNamespace now), echo) :: rest)
        result

variable {s : Type}

/-- The attempts of an update in a network are such a course. -/
theorem course_of_attempts (net : Network s) (state : s) (session : RemoteSession) (address : Uri)
    (workspace : String) (subjects : List String) (n : Nat) :
    let update := session.attemptBinding (RemoteSession.bindings address) workspace subjects n
    Course session address workspace subjects n (update.transcript net state)
      (update.run net state).1 := by
  induction n generalizing state with
  | zero => exact .exhausted
  | succ n ih =>
    simp only [RemoteSession.attemptBinding, get?_eq, storeBinding_eq, Exchange.bind,
      Exchange.transcript_send, Exchange.run_send]
    generalize net.answer (readRequest address) state = read
    obtain ⟨reply, state⟩ := read
    cases hread : seen reply with
    | error e => exact .unread hread
    | ok existing =>
      simp only [Exchange.transcript_look, Exchange.run_look, Exchange.transcript_send,
        Exchange.run_send]
      generalize net.answer (writeRequest address existing _) state = write
      obtain ⟨echo, state⟩ := write
      cases hwrite : written echo with
      | ok stored => exact .accepted hread hwrite
      | error e =>
        dsimp only
        split
        · rename_i hrace
          exact .lost hread hwrite (Bool.or_eq_true_iff.mp hrace) (ih state)
        · rename_i hrace
          exact .refused hread hwrite fun h => hrace (Bool.or_eq_true_iff.mpr h)

/-- The update of the binding of a workspace that has an address is a course of attempts. -/
theorem course_of_run (net : Network s) (state : s) {session : RemoteSession} {address : Uri}
    {workspace : String} (subjects : List String)
    (h : session.workspaceUrl workspace = .ok address) :
    Course session address workspace subjects RemoteSession.maxAttempts
      ((session.writeBinding workspace subjects).transcript net state)
      ((session.writeBinding workspace subjects).run net state).1 := by
  rw [RemoteSession.writeBinding, h]
  exact course_of_attempts net state session address workspace subjects _

end BindingUpdate

end WorkspaceAccess
