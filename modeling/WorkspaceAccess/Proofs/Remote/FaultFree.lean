import WorkspaceAccess.Proofs.Remote.NoLostUpdate
import WorkspaceAccess.Proofs.Remote.WorkspaceRequests

/-!
# Servers without Faults

A server keeps workspaces and, for every workspace, an access binding. `FaultFree` says how a server
without faults and without other writers answers the requests of a session: it shows what it keeps,
says of what is missing that it is not found, refuses to create what is there already, lists the
workspaces by name, and stores what it is told to. Whether it looks at the labels that a listing
asks for is left open.

The server adds to an object what servers assign (`ObjectMeta.unassigned` is the rest), and decides
in which phase a workspace is that is new, which may go on from there. So what it keeps is known
only up to these, and only the workspaces that were there at first are known to stay as they were
(`RemoteStore.Holds`).

`FaultFree` is a structure of hypotheses about a network, one for each kind of request, and it
speaks of requests and replies only. The last part of the module turns these into what the
operations of a session say and leave behind, one lemma for each operation. A server that meets the
hypotheses is built elsewhere (`PlainStore.faultFree`).

## Main results

* `run_getWorkspace`, `run_createWorkspace_of_created`, `run_createWorkspace_of_taken`,
  `run_listWorkspaces`, `run_writeBinding`: what an operation of a session says when the server says
  so of its requests.
* `FaultFree.getWorkspace`: a workspace is shown as it is kept.
* `FaultFree.createWorkspace_of_none`, `FaultFree.createWorkspace_of_some`: what is new is stored as
  it was asked for, and what is there is claimed as it is kept.
* `FaultFree.listWorkspaces`: the targets are listed as they are kept, by name.
* `FaultFree.writeBinding`: the binding that is kept is rebuilt for the subjects.
-/

namespace WorkspaceAccess

open WorkspaceName (IsLabel)

/-! ### What a server assigns -/

/-- The metadata without what a server assigns: names, labels, annotations and owners are left. -/
def ObjectMeta.unassigned (m : ObjectMeta) : ObjectMeta :=
  { m with
    creationTimestamp := none
    deletionGracePeriodSeconds := none
    deletionTimestamp := none
    generation := none
    managedFields := none
    resourceVersion := none
    selfLink := none
    uid := none }

/-- The binding without what a server assigns to its metadata. -/
def ClusterRoleBinding.unassigned (b : ClusterRoleBinding) : ClusterRoleBinding :=
  { b with metadata := b.metadata.unassigned }

/-- The workspace without what a server assigns and reports. -/
def Workspace.unassigned (ws : Workspace) : Workspace :=
  { ws with metadata := ws.metadata.unassigned, status := none }

/-- Workspaces that differ in what a server assigns and reports are seen to differ in their phases
only. -/
theorem Workspace.info_of_unassigned_eq {a b : Workspace} (h : a.unassigned = b.unassigned) :
    a.info = { b.info with phase := a.phase } := by
  have hseen (ws : Workspace) : { ws.unassigned.info with phase := a.phase } =
      { ws.info with phase := a.phase } := rfl
  calc a.info = { a.unassigned.info with phase := a.phase } := rfl
    _ = { b.info with phase := a.phase } := by rw [h, hseen]

/-! ### What a server keeps -/

/-- What a server keeps for a session. -/
structure RemoteStore where
  /-- The workspaces, each kept by its name. -/
  workspaces : SortedMap String Workspace
  /-- The access bindings, one for a workspace, kept by its name. -/
  bindings : SortedMap String ClusterRoleBinding

namespace RemoteStore

/-- What is kept has the right names, and bindings can be written down. -/
structure Sound (store : RemoteStore) : Prop where
  /-- Workspaces have the names that they are kept under. -/
  workspaces : ∀ name ws, store.workspaces.get? name = some ws → ws.metadata.name = some name
  /-- Bindings have the name of the access binding. -/
  bindings : ∀ workspace b, store.bindings.get? workspace = some b →
    b.metadata.name = some AccessBinding.name
  /-- Bindings can be written down and read back without loss. -/
  writable : ∀ workspace b, store.bindings.get? workspace = some b → b.metadata.IsWritable

/-- What lasts of a workspace: all of it, but where the workspace is new, only what its creator has
asked for. -/
def lasting (initial : RemoteStore) (name : String) (ws : Workspace) : Workspace :=
  if initial.workspaces.contains name then ws else ws.unassigned

/-- All of a workspace lasts that was there at first. -/
theorem lasting_of_old {initial : RemoteStore} {name : String} {ws : Workspace}
    (h : initial.workspaces.contains name = true) : initial.lasting name ws = ws := if_pos h

/-- Of a new workspace only what was asked for lasts. -/
theorem lasting_of_new {initial : RemoteStore} {name : String} {ws : Workspace}
    (h : initial.workspaces.contains name = false) :
    initial.lasting name ws = ws.unassigned := by
  rw [lasting, h, if_neg Bool.false_ne_true]

/-- The server keeps what is expected, though new workspaces may have gone on to another phase. -/
structure Holds (later expected initial : RemoteStore) : Prop where
  /-- The workspaces are the expected ones, as far as they last. -/
  workspaces : ∀ name, (later.workspaces.get? name).map (initial.lasting name) =
    (expected.workspaces.get? name).map (initial.lasting name)
  /-- The bindings are the expected ones, for every workspace. -/
  bindings : later.bindings = expected.bindings

/-- A server keeps what it keeps, with respect to any store that was there at first. -/
theorem Holds.refl (store initial : RemoteStore) : store.Holds store initial := ⟨fun _ => rfl, rfl⟩

variable {later middle expected initial : RemoteStore}

/-- What is kept for longer is kept in two steps. -/
theorem Holds.trans (h : later.Holds middle initial) (h' : middle.Holds expected initial) :
    later.Holds expected initial :=
  ⟨fun name => (h.workspaces name).trans (h'.workspaces name), h.bindings.trans h'.bindings⟩

/-- A workspace that is expected is there, with what is lasting of it as expected. -/
theorem Holds.exists_workspace (h : later.Holds expected initial) {name : String} {ws : Workspace}
    (hget : expected.workspaces.get? name = some ws) :
    ∃ ws', later.workspaces.get? name = some ws' ∧
      initial.lasting name ws' = initial.lasting name ws := by
  have hlasting := h.workspaces name
  rw [hget, Option.map_some] at hlasting
  exact Option.map_eq_some_iff.mp hlasting

/-- A workspace that is expected is kept under its name. -/
theorem Holds.contains (h : later.Holds expected initial) {name : String}
    (hname : expected.workspaces.contains name = true) : later.workspaces.contains name = true := by
  obtain ⟨ws, hget⟩ := Option.isSome_iff_exists.mp hname
  obtain ⟨shown, hshown, -⟩ := h.exists_workspace hget
  exact SortedMap.contains_of_get?_eq_some hshown

/-- What is expected of the bindings may be expected of both. -/
theorem Holds.insertBinding (h : later.Holds expected initial) (workspace : String)
    (b : ClusterRoleBinding) :
    RemoteStore.Holds { later with bindings := later.bindings.insert workspace b }
      { expected with bindings := expected.bindings.insert workspace b } initial :=
  ⟨h.workspaces, congrArg (·.insert workspace b) h.bindings⟩

end RemoteStore

/-- What is told about an object that is looked up: the object, or that there is none. -/
inductive Tells {α : Type} : Option α → Except ApiError α → Prop
  /-- The object is shown, as it is stored. -/
  | found (a : α) : Tells (some a) (.ok a)
  /-- The object is not found, and the reply says so. -/
  | missing {r : Refusal} (hcode : r.code = 404) (hreason : r.reason = "NotFound") :
      Tells none (.error (.refused r))

/-- What is told about an object is read as the object, or as that there is none. -/
theorem Tells.unlessAbsent {α : Type} {x : Option α} {told : Except ApiError α} (h : Tells x told) :
    Collection.unlessAbsent told = .ok x := by
  cases h with
  | found a => rfl
  | missing hcode hreason => simp [Collection.unlessAbsent, ApiError.isAbsence, hreason]

/-- A server without faults and without other writers, which keeps `store state` in a state. Since
it had `initial`, workspaces may have come up. There is a place for the binding of every workspace
that is named by a label, whether or not the server keeps a workspace of that name, as there is in
memory. -/
structure FaultFree {σ : Type} (session : RemoteSession) (initial : RemoteStore) (net : Network σ)
    (store : σ → RemoteStore) : Prop where
  /-- What is kept is sound, in every state. -/
  sound : ∀ state, (store state).Sound
  /-- A workspace is shown, or it is not found. -/
  lookup : ∀ state name, IsLabel name →
    let later := store (net.after (session.lookup name) state)
    later.Holds (store state) initial ∧
      Tells (later.workspaces.get? name) (net.told Workspace.ofJson? (session.lookup name) state)
  /-- A workspace is created as it is asked for, if there is none of its name. -/
  created : ∀ state object body name, Workspace.ofJson? object = some body →
    body.metadata.name = some name → IsLabel name → (store state).workspaces.get? name = none →
    let later := store (net.after (session.creation object) state)
    ∃ ws, net.told Workspace.ofJson? (session.creation object) state = .ok ws ∧
      ws.unassigned = body.unassigned ∧ later.workspaces.get? name = some ws ∧
      later.Holds { store state with workspaces := (store state).workspaces.insert name ws } initial
  /-- If the name is taken, the creation is refused and changes nothing that lasts. -/
  taken : ∀ state object body name ws, Workspace.ofJson? object = some body →
    body.metadata.name = some name → IsLabel name →
    (store state).workspaces.get? name = some ws →
    (∃ r, net.told Workspace.ofJson? (session.creation object) state = .error (.refused r) ∧
      r.code = 409) ∧
    (store (net.after (session.creation object) state)).Holds (store state) initial
  /-- The workspaces are listed by name, all of them or those with the labels. -/
  listing : ∀ state,
    let later := store (net.after session.listing state)
    later.Holds (store state) initial ∧
      ∃ l, net.told (Collection.objects? Workspace.ofJson?) session.listing state = .ok l ∧
        (l = later.workspaces.values ∨
          l = later.workspaces.values.filter fun ws => Annotations.isManaged ws.metadata.labelsD)
  /-- The binding of a workspace is shown, or it is not found. -/
  read : ∀ state workspace address, IsLabel workspace →
    session.workspaceUrl workspace = .ok address →
    let later := store (net.after (BindingUpdate.readRequest address) state)
    later.Holds (store state) initial ∧
      Tells (later.bindings.get? workspace)
        (net.told ClusterRoleBinding.ofJson? (BindingUpdate.readRequest address) state)
  /-- A binding is stored where there is none. -/
  stored : ∀ state workspace address object body, IsLabel workspace →
    session.workspaceUrl workspace = .ok address → ClusterRoleBinding.ofJson? object = some body →
    body.metadata.name = some AccessBinding.name →
    (store state).bindings.get? workspace = none →
    ∃ b, net.told ClusterRoleBinding.ofJson? (BindingUpdate.createRequest address object) state =
        .ok b ∧ b.unassigned = body.unassigned ∧
      (store (net.after (BindingUpdate.createRequest address object) state)).Holds
        { store state with bindings := (store state).bindings.insert workspace b } initial
  /-- A binding takes the place of the one whose version it names. -/
  replaced : ∀ state workspace address object body old, IsLabel workspace →
    session.workspaceUrl workspace = .ok address → ClusterRoleBinding.ofJson? object = some body →
    body.metadata.name = some AccessBinding.name →
    (store state).bindings.get? workspace = some old →
    body.metadata.resourceVersion = old.metadata.resourceVersion →
    ∃ b, net.told ClusterRoleBinding.ofJson? (BindingUpdate.replaceRequest address object) state =
        .ok b ∧ b.unassigned = body.unassigned ∧
      (store (net.after (BindingUpdate.replaceRequest address object) state)).Holds
        { store state with bindings := (store state).bindings.insert workspace b } initial

/-! ### What operations say -/

namespace RemoteSession

variable {σ : Type} {net : Network σ} {state : σ} {s : RemoteSession} {name project : String}

/-- A workspace is looked up by one request, and reported as the reply shows it. -/
theorem run_getWorkspace (h : IsLabel name) {found : Option Workspace}
    (htold : Tells found (net.told Workspace.ofJson? (s.lookup name) state)) :
    (s.getWorkspace name).run net state =
      (.ok (found.map Workspace.info), net.after (s.lookup name) state) := by
  have hanswer := htold.unlessAbsent
  rw [Network.told] at hanswer
  rw [getWorkspace, Collection.get?_eq_map, workspaces_get_eq s h]
  simp only [Exchange.map, Exchange.bind, Exchange.run_send, Exchange.run_done, hanswer]
  rfl

/-- A workspace is created by one request, and claimed as the server has stored it. -/
theorem run_createWorkspace_of_created {ws : Workspace}
    (htold : net.told Workspace.ofJson? (s.creation (s.newWorkspace name project).toJson) state =
      .ok ws) :
    (s.createWorkspace name project).run net state =
      (ws.info.claim project,
        net.after (s.creation (s.newWorkspace name project).toJson) state) := by
  rw [Network.told] at htold
  rw [createWorkspace, workspaces_create_eq]
  simp only [Exchange.map, Exchange.bind, Exchange.run_send, Exchange.run_done, htold]
  rfl

/-- A workspace that is there is claimed as it is kept, after a refusal and a look. -/
theorem run_createWorkspace_of_taken (h : IsLabel name) {ws : Workspace} {r : Refusal}
    (hrefused : net.told Workspace.ofJson? (s.creation (s.newWorkspace name project).toJson) state =
      .error (.refused r)) (hcode : r.code = 409)
    (hfound : net.told Workspace.ofJson? (s.lookup name)
      (net.after (s.creation (s.newWorkspace name project).toJson) state) = .ok ws) :
    (s.createWorkspace name project).run net state =
      (ws.info.claim project, net.after (s.lookup name)
        (net.after (s.creation (s.newWorkspace name project).toJson) state)) := by
  have hconflict : (ApiError.refused r).isConflict = true := beq_iff_eq.mpr hcode
  rw [Network.told] at hrefused hfound
  rw [Network.after] at hfound
  rw [createWorkspace, workspaces_create_eq]
  simp only [Exchange.map, Exchange.bind, Exchange.run_send, Exchange.run_done, hrefused, hconflict,
    if_true, workspaces_get_eq s h, hfound]
  rfl

/-- The workspaces are listed by one request, and the targets among them are reported. -/
theorem run_listWorkspaces {l : List Workspace}
    (htold : net.told (Collection.objects? Workspace.ofJson?) s.listing state = .ok l) :
    s.listWorkspaces.run net state =
      (.ok (WorkspaceInfo.targets (l.map Workspace.info)), net.after s.listing state) := by
  rw [Network.told] at htold
  rw [listWorkspaces, workspaces_list_eq]
  simp only [Exchange.map, Exchange.bind, Exchange.run_send, Exchange.run_done, htold]
  rfl

/-- The binding of a workspace is written in the first attempt. -/
theorem run_writeBinding {workspace : String} {address : Uri} {subjects : List String}
    {existing : Option ClusterRoleBinding} {stored : ClusterRoleBinding}
    (haddress : s.workspaceUrl workspace = .ok address)
    (hread : Tells existing
      (net.told ClusterRoleBinding.ofJson? (BindingUpdate.readRequest address) state)) :
    let before := net.after (BindingUpdate.readRequest address) state
    let request := BindingUpdate.writeRequest address existing
      (AccessBinding.desired existing subjects s.sourceNamespace (net.wall before))
    net.told ClusterRoleBinding.ofJson? request before = .ok stored →
      (s.writeBinding workspace subjects).run net state = (.ok (), net.after request before) := by
  intro before request hwrite
  have hseen : BindingUpdate.seen (net.answer (BindingUpdate.readRequest address) state).1 =
      .ok existing := hread.unlessAbsent
  have hwritten : BindingUpdate.written (net.answer request before).1 = .ok stored := hwrite
  rw [writeBinding, haddress]
  show Exchange.run net (attemptBinding s (bindings address) workspace subjects (2 + 1)) state = _
  simp only [attemptBinding, BindingUpdate.get?_eq, BindingUpdate.storeBinding_eq, Exchange.bind,
    Exchange.run_send, hseen, Exchange.run_look]
  dsimp only [before, request, Network.after] at hwritten ⊢
  rw [hwritten]
  rfl

end RemoteSession

/-! ### Operations on a server without faults -/

namespace FaultFree

variable {σ : Type} {session : RemoteSession} {initial : RemoteStore} {net : Network σ}
  {store : σ → RemoteStore} {name project : String}

/-- A workspace is shown as it is kept by the server, and nothing that is kept changes by that. -/
theorem getWorkspace (server : FaultFree session initial net store) (state : σ)
    (h : IsLabel name) :
    ∃ later, (session.getWorkspace name).run net state =
        (.ok (((store later).workspaces.get? name).map Workspace.info), later) ∧
      (store later).Holds (store state) initial := by
  obtain ⟨hholds, htold⟩ := server.lookup state name h
  exact ⟨_, RemoteSession.run_getWorkspace h htold, hholds⟩

/-- A workspace that is asked for is understood by whoever reads the request. -/
theorem ofJson?_newWorkspace (session : RemoteSession) (name project : String) :
    Workspace.ofJson? (session.newWorkspace name project).toJson =
      some (session.newWorkspace name project) := by
  refine Workspace.ofJson?_toJson ?_
  constructor
  all_goals
    intro _ h
    cases h

/-- What is new is stored as it was asked for. -/
theorem createWorkspace_of_none (server : FaultFree session initial net store) (state : σ)
    (h : IsLabel name) (project : String) (hnone : (store state).workspaces.get? name = none) :
    ∃ later ws, (session.createWorkspace name project).run net state =
        (ws.info.claim project, later) ∧
      ws.unassigned = (session.newWorkspace name project).unassigned ∧
      (store later).workspaces.get? name = some ws ∧
      (store later).Holds
        { store state with workspaces := (store state).workspaces.insert name ws } initial := by
  obtain ⟨ws, htold, hws, hget, hholds⟩ := server.created state _ _ name
    (ofJson?_newWorkspace session name project) rfl h hnone
  exact ⟨_, ws, RemoteSession.run_createWorkspace_of_created htold, hws, hget, hholds⟩

/-- What is there already is claimed as it is kept. -/
theorem createWorkspace_of_some (server : FaultFree session initial net store) (state : σ)
    (h : IsLabel name) (project : String) {old : Workspace}
    (hsome : (store state).workspaces.get? name = some old) :
    ∃ later ws, (session.createWorkspace name project).run net state =
        (ws.info.claim project, later) ∧
      (store later).workspaces.get? name = some ws ∧
      (store later).Holds (store state) initial := by
  obtain ⟨⟨r, hrefused, hcode⟩, hrefusal⟩ := server.taken state _ _ name old
    (ofJson?_newWorkspace session name project) rfl h hsome
  obtain ⟨hlookup, htold⟩ := server.lookup _ name h
  have hholds := hlookup.trans hrefusal
  obtain ⟨ws, hget, -⟩ := hholds.exists_workspace hsome
  rw [hget] at htold
  generalize hfound : net.told Workspace.ofJson? (session.lookup name) _ = found at htold
  cases htold
  exact ⟨_, ws, RemoteSession.run_createWorkspace_of_taken h hrefused hcode hfound, hget, hholds⟩

/-- The targets among the workspaces are listed as they are kept, by name. -/
theorem listWorkspaces (server : FaultFree session initial net store) (state : σ) :
    ∃ later, session.listWorkspaces.run net state =
        (.ok (WorkspaceInfo.targets ((store later).workspaces.values.map Workspace.info)), later) ∧
      (store later).Holds (store state) initial := by
  obtain ⟨hholds, l, htold, hl⟩ := server.listing state
  refine ⟨_, ?_, hholds⟩
  rw [RemoteSession.run_listWorkspaces htold]
  rcases hl with rfl | rfl
  · rfl
  · -- What the labels leave out is no target in any case.
    rw [WorkspaceInfo.targets, WorkspaceInfo.targets, List.filter_map, List.filter_map,
      List.filter_filter]
    congr 3
    refine List.filter_congr fun ws _ => ?_
    show (ws.info.isTarget && ws.info.managed) = ws.info.isTarget
    rw [WorkspaceInfo.isTarget]
    cases ws.info.managed <;> simp

/-- What is built on the binding that is kept takes its place, or is stored if there is none. -/
theorem write (server : FaultFree session initial net store) (state : σ)
    {workspace : String} {address : Uri} (h : IsLabel workspace)
    (haddress : session.workspaceUrl workspace = .ok address) (subjects : List String)
    (now : Timestamp) :
    let existing := (store state).bindings.get? workspace
    let desired := AccessBinding.desired existing subjects session.sourceNamespace now
    let request := BindingUpdate.writeRequest address existing desired
    ∃ b, net.told ClusterRoleBinding.ofJson? request state = .ok b ∧
      b.unassigned = desired.unassigned ∧
      (store (net.after request state)).Holds
        { store state with bindings := (store state).bindings.insert workspace b } initial := by
  intro existing desired request
  have hbody : ClusterRoleBinding.ofJson? desired.toJson = some desired :=
    ClusterRoleBinding.ofJson?_toJson (BindingUpdate.desired_isWritable fun b hb =>
      (server.sound state).writable workspace b hb)
  cases hexisting : (store state).bindings.get? workspace with
  | none =>
    have hrequest : request = BindingUpdate.createRequest address desired.toJson := by
      simp only [request, existing, hexisting, BindingUpdate.writeRequest]
    have hname : desired.metadata.name = some AccessBinding.name := by
      simp only [desired, existing, hexisting]
      rfl
    rw [hrequest]
    exact server.stored state workspace address _ desired h haddress hbody hname hexisting
  | some old =>
    have hrequest : request = BindingUpdate.replaceRequest address desired.toJson := by
      simp only [request, existing, hexisting, BindingUpdate.writeRequest]
    have hkept : desired.metadata.unmarked = old.metadata.unmarked := by
      simp only [desired, existing, hexisting]
      exact AccessBinding.desired_unmarked (some old) subjects session.sourceNamespace now
    have hname : desired.metadata.name = old.metadata.name := congrArg (·.name) hkept
    rw [hrequest]
    exact server.replaced state workspace address _ desired old h haddress hbody
      (hname.trans ((server.sound state).bindings workspace old hexisting)) hexisting
      (congrArg (·.resourceVersion) hkept)

/-- The binding that is kept is rebuilt for the subjects. -/
theorem writeBinding (server : FaultFree session initial net store) (state : σ)
    {workspace : String} {address : Uri} (h : IsLabel workspace)
    (haddress : session.workspaceUrl workspace = .ok address) (subjects : List String) :
    ∃ later now b, (session.writeBinding workspace subjects).run net state = (.ok (), later) ∧
      b.unassigned = (AccessBinding.desired ((store state).bindings.get? workspace) subjects
        session.sourceNamespace now).unassigned ∧
      (store later).Holds
        { store state with bindings := (store state).bindings.insert workspace b } initial := by
  obtain ⟨hread, htold⟩ := server.read state workspace address h haddress
  let before := net.after (BindingUpdate.readRequest address) state
  obtain ⟨b, hwritten, hb, hholds⟩ := server.write before h haddress subjects (net.wall before)
  have hsame : (store before).bindings = (store state).bindings := hread.bindings
  refine ⟨_, net.wall before, b, RemoteSession.run_writeBinding haddress htold hwritten, ?_,
    hholds.trans (hread.insertBinding workspace b)⟩
  rw [hb, hsame]

end FaultFree

end WorkspaceAccess
