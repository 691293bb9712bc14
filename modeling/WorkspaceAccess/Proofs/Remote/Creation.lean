import WorkspaceAccess.Proofs.Object.Wire
import WorkspaceAccess.Proofs.Remote.InMemory
import WorkspaceAccess.Proofs.Workspace.Footprint

/-!
# Creating a Workspace

A session that creates a workspace for a project sends a request for it, and when the server says
that the name is taken, it looks up what is there. Whatever the server replies, the workspace that
it shows in the end is accepted for the project only if it is the project's own or nobody's, whether
it was created or found.

Two things are proved apart. One is what is sent (`Course`): one request to create the workspace,
whose content the server reads as a workspace of this name, with the label and the annotation that
say whose it is to be, and at most one request to look it up, just when the server has said that the
name is taken. The other is what comes of the last reply (`Concludes`): a workspace that is
accepted, a collision with the owner that it names, or the error of the server.

Nothing is ever replaced, patched or deleted, so that a workspace that is there stays as it is.

## Main results

* `WorkspaceInfo.claim_eq_error_iff`: a workspace is refused just when it is another project's.
* `ofJson?_newWorkspace`: what a session sends is read by the server as it is meant.
* `createWorkspace_eq`: creating is to ask for the workspace, and maybe to look it up.
* `course_of_run`, `Course.methods`: creating sends what its course says, and nothing else.
* `concludes`: what a session makes of the last reply depends on whose workspace it shows.
* `creating_takes_nothing_over`: all of it, for every network, name and project.
* `their_zot_stays_theirs`: a name that is taken by another project.
-/

namespace WorkspaceAccess

open WorkspaceName (IsLabel)

/-- A workspace is refused just when it is another project's. -/
theorem WorkspaceInfo.claim_eq_error_iff {ws : WorkspaceInfo} {project : String} {e : RemoteError} :
    ws.claim project = .error e ↔
      ∃ owner, ws.project = some owner ∧ owner ≠ project ∧
        e = .collision ws.name project owner := by
  rw [claim]
  cases ws.project with
  | none => simp
  | some owner =>
    by_cases h : owner = project
    · simp [h]
    · simp only [if_neg h, Except.error.injEq, Option.some.injEq]
      constructor
      · rintro rfl
        exact ⟨owner, rfl, h, rfl⟩
      · rintro ⟨_, rfl, -, rfl⟩
        rfl

/-- Metadata without times, numbers and managed fields can be written down. -/
theorem ObjectMeta.IsWritable.of_none {m : ObjectMeta} (hcreation : m.creationTimestamp = none)
    (hdeletion : m.deletionTimestamp = none) (hgrace : m.deletionGracePeriodSeconds = none)
    (hgeneration : m.generation = none) (hmanaged : m.managedFields = none) : m.IsWritable where
  creation _ h := by
    rw [hcreation] at h
    cases h
  deletion _ h := by
    rw [hdeletion] at h
    cases h
  gracePeriod _ h := by
    rw [hgrace] at h
    cases h
  generation _ h := by
    rw [hgeneration] at h
    cases h
  managed _ h := by
    rw [hmanaged] at h
    cases h

namespace WorkspaceCreation

/-! ### What is sent -/

/-- The workspace that a reply shows, or what keeps it from showing one. -/
def shown (reply : Option Reply) : Except ApiError Workspace :=
  Exchange.answer Workspace.ofJson? reply

/-- A reply says that the name is taken, by the code of a conflict and whatever its reason is. -/
def IsTaken (reply : Option Reply) : Prop := ∃ e, shown reply = .error e ∧ e.hasCode 409 = true

/-- What is sent to create a workspace for a project, as the server reads it. -/
structure AsksFor (session : RemoteSession) (name project : String) (ws : Workspace) : Prop where
  /-- The workspace gets the name, -/
  name : ws.metadata.name = some name
  /-- is labelled as this controller's, -/
  managed : Annotations.isManaged ws.metadata.labelsD = true
  /-- belongs to the project, -/
  project : ws.metadata.annotationsD.get? Annotations.project = some project
  /-- and is of the type that the session is set to, which the root workspace defines. -/
  type : ws.spec.type = some ⟨session.workspaceType, some session.rootPath⟩

/-- What is sent and received, and the reply that decides. -/
inductive Course (session : RemoteSession) (name : String) (object : Json) :
    Transcript → Option Reply → Prop
  /-- The name is not taken, and the reply to the creation is the last one. -/
  | created {reply : Option Reply} (h : ¬IsTaken reply) :
      Course session name object [(session.creation object, reply)] reply
  /-- The name is taken, and what is there is looked up. -/
  | found {reply other : Option Reply} (h : IsTaken reply) :
      Course session name object
        [(session.creation object, reply), (session.lookup name, other)] other

/-- What comes of the last reply. -/
structure Concludes (project : String) (last : Except ApiError Workspace)
    (result : Except RemoteError WorkspaceInfo) : Prop where
  /-- The workspace is accepted just when it is the project's or nobody's. -/
  ok_iff : ∀ info, result = .ok info ↔ ∃ ws, last = .ok ws ∧ info = ws.info ∧
    (ws.metadata.annotationsD.get? Annotations.project = none ∨
      ws.metadata.annotationsD.get? Annotations.project = some project)
  /-- It is a collision just when it is another project's, which is named. -/
  collision_iff : ∀ name asked owner, result = .error (.collision name asked owner) ↔
    asked = project ∧ owner ≠ project ∧ ∃ ws, last = .ok ws ∧ name = ws.metadata.nameAny ∧
      ws.metadata.annotationsD.get? Annotations.project = some owner
  /-- It is an error of the server just when no workspace is shown. -/
  api_iff : ∀ e, result = .error (.api e) ↔ last = .error e
  /-- There is no other end than a workspace, an error of the server or a collision. -/
  ends : (∃ info, result = .ok info) ∨ (∃ e, result = .error (.api e)) ∨
    ∃ name owner, result = .error (.collision name project owner)

variable {s : Type} {session : RemoteSession} {name project : String}

/-- What a session sends is read by the server as it is meant. -/
theorem ofJson?_newWorkspace (session : RemoteSession) (name project : String) :
    ∃ ws, Workspace.ofJson? (session.newWorkspace name project).toJson = some ws ∧
      AsksFor session name project ws := by
  have hwritable : (session.newWorkspace name project).metadata.IsWritable :=
    .of_none rfl rfl rfl rfl rfl
  exact ⟨_, Workspace.ofJson?_toJson hwritable, rfl, rfl, rfl, rfl⟩

/-- What a session makes of the last reply: a workspace is claimed for the project, and an error
stays one. -/
def conclude (project : String) : Except ApiError Workspace → Except RemoteError WorkspaceInfo
  | .ok ws => ws.info.claim project
  | .error e => .error (.api e)

/-- What a session makes of the last reply depends on whose workspace it shows. -/
theorem concludes (project : String) (last : Except ApiError Workspace) :
    Concludes project last (conclude project last) := by
  cases last with
  | error e => constructor <;> simp [conclude, eq_comm]
  | ok ws =>
    refine ⟨fun info => ?_, fun name asked owner => ?_, ?_, ?_⟩
    · simp only [conclude, WorkspaceInfo.claim_eq_ok_iff, Except.ok.injEq]
      exact ⟨fun h => ⟨ws, rfl, h⟩, fun ⟨_, hws, h⟩ => hws ▸ h⟩
    · simp only [conclude, WorkspaceInfo.claim_eq_error_iff, Except.ok.injEq]
      constructor
      · rintro ⟨_, howner, hne, ⟨⟩⟩
        exact ⟨rfl, hne, ws, rfl, rfl, howner⟩
      · rintro ⟨rfl, hne, _, rfl, rfl, howner⟩
        exact ⟨owner, howner, hne, rfl⟩
    · intro e
      simp only [conclude, WorkspaceInfo.claim_eq_error_iff, reduceCtorEq, iff_false]
      rintro ⟨_, -, -, ⟨⟩⟩
    · cases hclaim : ws.info.claim project with
      | ok info => exact .inl ⟨info, hclaim⟩
      | error e =>
        obtain ⟨owner, -, -, rfl⟩ := WorkspaceInfo.claim_eq_error_iff.mp hclaim
        exact .inr (.inr ⟨_, owner, hclaim⟩)

/-- What is left of a creation when its request was replied. -/
def afterwards (session : RemoteSession) (name project : String) :
    Except ApiError Workspace → Exchange (Except RemoteError WorkspaceInfo)
  | .ok ws => .done (conclude project (.ok ws))
  | .error e =>
    if e.isConflict then
      .send (session.lookup name) fun reply => .done (conclude project (shown reply))
    else .done (conclude project (.error e))

/-- Creating is to ask for the workspace, and maybe to look it up. -/
theorem createWorkspace_eq (session : RemoteSession) (hname : IsLabel name) (project : String) :
    session.createWorkspace name project =
      .send (session.creation (session.newWorkspace name project).toJson) fun reply =>
        afterwards session name project (shown reply) := by
  rw [RemoteSession.createWorkspace, RemoteSession.workspaces_create_eq,
    RemoteSession.workspaces_get_eq session hname]
  refine congrArg (Exchange.send _) (funext fun reply => ?_)
  show Exchange.bind (Exchange.bind (.done (shown reply)) _) _ = _
  cases shown reply with
  | ok ws => rfl
  | error e =>
    simp only [Exchange.bind, afterwards]
    cases e.isConflict with
    | false => rfl
    | true =>
      refine congrArg (Exchange.send _) (funext fun other => ?_)
      simp only [shown]
      cases Exchange.answer Workspace.ofJson? other <;> rfl

/-- Creating sends what its course says, and its end is decided by the last reply. -/
theorem course_of_run (net : Network s) (state : s) (hname : IsLabel name) (project : String) :
    ∃ last, Course session name (session.newWorkspace name project).toJson
        ((session.createWorkspace name project).transcript net state) last ∧
      ((session.createWorkspace name project).run net state).1 =
        conclude project (shown last) := by
  rw [createWorkspace_eq session hname, Exchange.transcript_send, Exchange.run_send]
  generalize net.answer (session.creation (session.newWorkspace name project).toJson) state =
    answered
  obtain ⟨reply, later⟩ := answered
  cases hreply : shown reply with
  | ok ws =>
    have hfree : ¬IsTaken reply := by
      rintro ⟨e, he, -⟩
      rw [hreply] at he
      cases he
    exact ⟨reply, .created hfree, by rw [hreply]; rfl⟩
  | error e =>
    cases hconflict : e.isConflict with
    | false =>
      have hfree : ¬IsTaken reply := by
        rintro ⟨other, hother, htaken⟩
        rw [hreply] at hother
        cases hother
        exact Bool.false_ne_true (hconflict.symm.trans htaken)
      simp only [afterwards, hconflict, Bool.false_eq_true, if_false, Exchange.transcript_done,
        Exchange.run_done]
      exact ⟨reply, .created hfree, by rw [hreply]⟩
    | true =>
      simp only [afterwards, hconflict, if_true, Exchange.transcript_send, Exchange.run_send,
        Exchange.transcript_done, Exchange.run_done]
      exact ⟨_, .found ⟨e, hreply, hconflict⟩, rfl⟩

/-- Nothing is replaced, patched or deleted: there is one request to create the workspace, and at
most one to look it up. -/
theorem Course.methods {object : Json} {log : Transcript} {last : Option Reply}
    (h : Course session name object log last) :
    log.map (·.1.method) = [.post] ∨ log.map (·.1.method) = [.post, .get] := by
  cases h with
  | created => exact .inl rfl
  | found => exact .inr rfl

/-- Whatever a server replies, creating a workspace for a project sends one request for it, which
says whose it is to be, and looks the name up just when the server says that it is taken. What is
shown last is accepted just when it is the project's or nobody's; another project's is a collision,
and where nothing is shown, the error is the server's. -/
theorem creating_takes_nothing_over (net : Network s) (state : s) (session : RemoteSession)
    (hname : IsLabel name) (project : String) :
    let creates := session.createWorkspace name project
    ∃ object ws last, Workspace.ofJson? object = some ws ∧ AsksFor session name project ws ∧
      Course session name object (creates.transcript net state) last ∧
      (∀ e ∈ creates.transcript net state, e.1.method = .post ∨ e.1.method = .get) ∧
      Concludes project (shown last) (creates.run net state).1 := by
  intro creates
  obtain ⟨ws, hread, hasks⟩ := ofJson?_newWorkspace session name project
  obtain ⟨last, hcourse, hresult⟩ := course_of_run net state hname project
  refine ⟨_, ws, last, hread, hasks, hcourse, fun e he => ?_, hresult ▸ concludes project _⟩
  have hmethod := List.mem_map_of_mem (f := fun e : Request × Option Reply => e.1.method) he
  rcases hcourse.methods with hmethods | hmethods
  · rw [hmethods] at hmethod
    exact .inl (List.mem_singleton.mp hmethod)
  · rw [hmethods] at hmethod
    simpa using hmethod

/-! ### A name that is taken -/

/-- Where the name is taken, what is shown then decides. -/
theorem run_of_isTaken {first second : Reply} (session : RemoteSession) (hname : IsLabel name)
    (project : String) (wall : Timestamp) (h : IsTaken (some first)) :
    ((session.createWorkspace name project).run (.scripted wall) [first, second]).1 =
      conclude project (shown (some second)) := by
  obtain ⟨e, hshown, hconflict⟩ := h
  rw [createWorkspace_eq session hname, Exchange.run_send]
  show ((afterwards session name project (shown (some first))).run (.scripted wall) [second]).1 = _
  rw [hshown, afterwards, ApiError.isConflict, if_pos hconflict]
  rfl

/-- A workspace of another project, in no phase yet. -/
def theirZot : Workspace where
  metadata := {
    name := some "zot"
    annotations := some (.ofList [(Annotations.project, "theirs")]) }
  spec := {}
  status := none

/-- The server says that the name is taken, and shows the other project's workspace. -/
def taken : List Reply := [BindingUpdate.refusal 409 "AlreadyExists", .ofJson 200 theirZot.toJson]

/-- The workspace is understood when it is replied, which is checked by running the decoder. -/
theorem shown_theirZot : shown (some (.ofJson 200 theirZot.toJson)) = .ok theirZot := by
  show Reply.decode Workspace.ofJson? (.ofJson 200 theirZot.toJson) = .ok theirZot
  have hworded : Json.IsWorded 4 theirZot.toJson :=
    Workspace.isWorded_toJson (ObjectMeta.isWorded_toJson rfl rfl rfl)
  exact Reply.decode_ofJson hworded (by decide) rfl
    (Workspace.ofJson?_toJson (.of_none rfl rfl rfl rfl rfl))

/-- The workspace is looked up, and stays the other project's. -/
theorem their_zot_stays_theirs :
    IsLabel "zot" ∧
    let creates := BindingUpdate.rootSession.createWorkspace "zot" "mine"
    (creates.run (.scripted .epoch) taken).1 = .error (.collision "zot" "mine" "theirs") ∧
    ∃ object ws last, Workspace.ofJson? object = some ws ∧
      AsksFor BindingUpdate.rootSession "zot" "mine" ws ∧
      Course BindingUpdate.rootSession "zot" object
        (creates.transcript (.scripted .epoch) taken) last ∧
      (∀ e ∈ creates.transcript (.scripted .epoch) taken,
        e.1.method = .post ∨ e.1.method = .get) ∧
      Concludes "mine" (shown last) (creates.run (.scripted .epoch) taken).1 := by
  refine ⟨isLabel_zot, ?_, creating_takes_nothing_over (.scripted .epoch) taken
    BindingUpdate.rootSession isLabel_zot "mine"⟩
  have htaken : IsTaken (some (BindingUpdate.refusal 409 "AlreadyExists")) := by
    refine ⟨.refused (.ofReply (BindingUpdate.refusal 409 "AlreadyExists")), ?_,
      by decide +kernel⟩
    show Reply.decode Workspace.ofJson? (BindingUpdate.refusal 409 "AlreadyExists") = _
    exact PlainStore.refused_of_refusal _ rfl
  have hcollides : conclude "mine" (.ok theirZot) = .error (.collision "zot" "mine" "theirs") := rfl
  exact (run_of_isTaken _ isLabel_zot "mine" _ htaken).trans (shown_theirZot ▸ hcollides)

end WorkspaceCreation

end WorkspaceAccess
