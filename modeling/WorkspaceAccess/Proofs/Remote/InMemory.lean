import WorkspaceAccess.Proofs.Remote.PlainServer
import WorkspaceAccess.Remote.InMemory

/-!
# The Remote Control Plane in Memory Is Faithful

A session on a server without faults and the remote control plane in memory are called in the same
way. Whatever the calls, they answer alike (`Agrees`), and what the one keeps corresponds to what
the other keeps (`InMemory.Mirrors`). Only the server decides in which phase a workspace is that is
new, and when a binding was rebuilt, and adds to the bindings what servers assign.

It is a simulation, call by call. `Mirrors` relates the control plane in memory to what the server
keeps: every workspace is the one that the server reports, but for the phase of those that are new,
and every binding is the same but for its times and for what the server assigned
(`ClusterRoleBinding.essence`). For each of the five calls there is a case in which both sides do
the same thing to what they keep, and the answers are computed from related stores.

A rebuilt binding keeps what concerns others, and on one side that includes what the server
assigned. So the essence of a rebuilt binding has to depend on the essence of the old one only,
which is the one place where the two sides might have drifted apart
(`AccessBinding.essence_desired`).

## Main results

* `essence_desired`: bindings that are alike but for the times are rebuilt to such bindings.
* `mirrors_inMemory`: what corresponds to a store mirrors it.
* `Mirrors.of_holds`, `Mirrors.insertWorkspace`, `Mirrors.insertBinding`, `Mirrors.rebuild`: what is
  done on both sides is mirrored.
* `Mirrors.call`, `Mirrors.calls`: a call, and a sequence of calls, through the session and in
  memory.
* `every_call_is_answered_as_in_memory`: the same for every session that settings lead to.
* `collision_is_answered_as_in_memory`: a workspace that another project asks for.
-/

namespace WorkspaceAccess

open WorkspaceName (IsLabel)

/-! ### Bindings but for their times -/

/-- The binding without what a server assigns and without the time at which it was rebuilt. -/
def ClusterRoleBinding.essence (b : ClusterRoleBinding) : ClusterRoleBinding :=
  { b with metadata := { b.metadata.unassigned with
      annotations := b.metadata.annotations.map (·.erase Annotations.lastSynced) } }

/-- Bindings that differ in what a server assigns have the same essence. -/
theorem ClusterRoleBinding.essence_of_unassigned_eq {a b : ClusterRoleBinding}
    (h : a.unassigned = b.unassigned) : a.essence = b.essence := by
  have hessence (b : ClusterRoleBinding) : b.unassigned.essence = b.essence := rfl
  rw [← hessence a, h, hessence b]

/-- What is inserted counts in the same way in maps that agree at a key. -/
theorem SortedMap.get?_insertAll_congr {κ ν : Type} [KeyOrder κ] {m m' : SortedMap κ ν} {k : κ}
    (h : m.get? k = m'.get? k) (l : List (κ × ν)) :
    (m.insertAll l).get? k = (m'.insertAll l).get? k := by
  induction l generalizing m m' with
  | nil => exact h
  | cons e rest ih =>
    refine ih ?_
    rw [get?_insert, get?_insert, h]

namespace AccessBinding

/-- The annotations of a rebuilt binding depend on the old ones and, but for the time, on what it is
rebuilt for. -/
theorem erase_insertAll_marks {a a' : Annotations}
    (h : a.erase Annotations.lastSynced = a'.erase Annotations.lastSynced) (subjects : List String)
    (ns : String) (now now' : Timestamp) :
    (a.insertAll (marks subjects ns now)).erase Annotations.lastSynced =
      (a'.insertAll (marks subjects ns now')).erase Annotations.lastSynced := by
  refine SortedMap.ext fun k => ?_
  by_cases hk : k = Annotations.lastSynced
  · rw [hk, SortedMap.get?_erase_self, SortedMap.get?_erase_self]
  · have hold : a.get? k = a'.get? k := by
      rw [← SortedMap.get?_erase_of_ne hk, h, SortedMap.get?_erase_of_ne hk]
    rw [SortedMap.get?_erase_of_ne hk, SortedMap.get?_erase_of_ne hk]
    -- The mark of the time is the first one.
    have hfirst : (a.insert Annotations.lastSynced now.render).get? k =
        (a'.insert Annotations.lastSynced now'.render).get? k := by
      rw [SortedMap.get?_insert_of_ne hk, SortedMap.get?_insert_of_ne hk, hold]
    exact SortedMap.get?_insertAll_congr hfirst _

/-- Bindings that are alike but for the times are rebuilt to such bindings. -/
theorem essence_desired {existing existing' : Option ClusterRoleBinding}
    (h : existing.map (·.essence) = existing'.map (·.essence)) (subjects : List String)
    (ns : String) (now now' : Timestamp) :
    (desired existing subjects ns now).essence = (desired existing' subjects ns now').essence := by
  have hold : (existing.getD blank).essence = (existing'.getD blank).essence := by
    cases existing <;> cases existing' <;> simp_all
  have hkept : (existing.getD blank).essence.metadata = (existing'.getD blank).essence.metadata :=
    congrArg (·.metadata) hold
  have hannotations : (existing.getD blank).metadata.annotationsD.erase Annotations.lastSynced =
      (existing'.getD blank).metadata.annotationsD.erase Annotations.lastSynced := by
    have herase (m : ObjectMeta) : m.annotationsD.erase Annotations.lastSynced =
        (m.annotations.map (·.erase Annotations.lastSynced)).getD SortedMap.empty := by
      rw [ObjectMeta.annotationsD]
      cases m.annotations <;> rfl
    rw [herase, herase]
    exact congrArg (·.annotations.getD SortedMap.empty) hkept
  -- What is rebuilt is put together from the essence of the old metadata and the annotations.
  have hrebuilt (e : Option ClusterRoleBinding) (now : Timestamp) :
      (desired e subjects ns now).essence =
        { metadata := { (e.getD blank).essence.metadata with
            labels := some ((e.getD blank).essence.metadata.labelsD.merge Annotations.managedLabels)
            annotations := some (((e.getD blank).metadata.annotationsD.insertAll
              (marks subjects ns now)).erase Annotations.lastSynced) }
          roleRef := roleRef
          subjects := some (subjects.map user) } := rfl
  rw [hrebuilt, hrebuilt, hkept, erase_insertAll_marks hannotations subjects ns now now']

end AccessBinding

/-! ### Phases of new workspaces -/

/-- A workspace is seen under the name of its object. -/
theorem Workspace.name_info {ws : Workspace} {name : String} (h : ws.metadata.name = some name) :
    ws.info.name = name := by
  rw [info, ObjectMeta.nameAny, h]
  rfl

namespace RemoteStore

variable {later store initial : RemoteStore} {ws : WorkspaceInfo}

/-- A workspace as the server reports it: where it is new, in the phase that the server says. -/
def report (later initial : RemoteStore) (ws : WorkspaceInfo) : WorkspaceInfo :=
  if initial.workspaces.contains ws.name then ws
  else { ws with phase := ((later.workspaces.get? ws.name).map Workspace.phase).getD ws.phase }

/-- A workspace is reported under its own name, whatever has become of its phase. -/
@[simp] theorem name_report : (later.report initial ws).name = ws.name := by
  unfold report
  split <;> rfl

/-- It is reported as the workspace of its own project. -/
@[simp] theorem project_report : (later.report initial ws).project = ws.project := by
  unfold report
  split <;> rfl

/-- A workspace that was there at first is reported as it is. -/
theorem report_of_old (h : initial.workspaces.contains ws.name = true) :
    later.report initial ws = ws := if_pos h

/-- A new workspace is reported in the phase that the server keeps. -/
theorem report_of_new (h : initial.workspaces.contains ws.name = false) {kept : Workspace}
    (hget : later.workspaces.get? ws.name = some kept) :
    later.report initial ws = { ws with phase := kept.phase } := by
  simp [report, h, hget]

/-- Whose a workspace is does not depend on its phase. -/
theorem claim_report (project : String) :
    (later.report initial ws).claim project =
      (ws.claim project).map (later.report initial) := by
  rw [WorkspaceInfo.claim, WorkspaceInfo.claim, project_report, name_report]
  split
  · split <;> rfl
  · rfl

/-- The control plane in memory that corresponds to what a server keeps. -/
def inMemory (store : RemoteStore) (sourceNamespace : String) : InMemory where
  sourceNamespace
  workspaces := store.workspaces.map Workspace.info
  bindings := store.bindings

end RemoteStore

/-! ### What corresponds -/

namespace InMemory

/-- The control plane in memory keeps what the server keeps, but for the phases of workspaces that
are new since the server had `initial`, and for what times and servers add to bindings. -/
structure Mirrors (r : InMemory) (store initial : RemoteStore) : Prop where
  /-- The workspaces are those that the server reports. -/
  workspaces : ∀ name, (store.workspaces.get? name).map Workspace.info =
    (r.workspaces.get? name).map (store.report initial)
  /-- New workspaces are not ready in memory, as they are scheduled first. -/
  scheduled : ∀ name ws, r.workspaces.get? name = some ws →
    initial.workspaces.contains name = false → ws.phase = .scheduling
  /-- The server has lost no workspace that it had in the beginning. -/
  kept : ∀ name, initial.workspaces.contains name = true → store.workspaces.contains name = true
  /-- The bindings are the same but for times and what servers assign. -/
  bindings : ∀ workspace, (store.bindings.get? workspace).map (·.essence) =
    (r.bindings.get? workspace).map (·.essence)
  /-- Every request is answered: the memory is not made unreachable. -/
  reachable : r.unreachable = false
  /-- Every binding can be written: no workspace is made to fail. -/
  healthy : ∀ workspace, r.failing.contains workspace = false

variable {r : InMemory} {store later initial : RemoteStore} {name project : String}

/-- What corresponds to a store mirrors it, with nothing having happened yet. -/
theorem mirrors_inMemory (sound : store.Sound) (sourceNamespace : String) :
    (store.inMemory sourceNamespace).Mirrors store store where
  workspaces name := by
    show _ = ((store.workspaces.map Workspace.info).get? name).map _
    rw [SortedMap.get?_map]
    cases hget : store.workspaces.get? name with
    | none => rfl
    | some ws =>
      have hname : ws.info.name = name := Workspace.name_info (sound.workspaces name ws hget)
      have hold : store.workspaces.contains ws.info.name = true :=
        hname ▸ SortedMap.contains_of_get?_eq_some hget
      rw [Option.map_some, Option.map_some, RemoteStore.report_of_old hold]
  scheduled name ws hget hnew := by
    have hmap : (store.workspaces.map Workspace.info).get? name = some ws := hget
    rw [SortedMap.get?_map, SortedMap.contains_eq_false_iff.mp hnew] at hmap
    cases hmap
  kept _ h := h
  bindings _ := rfl
  reachable := rfl
  healthy _ := rfl

/-- What is kept in memory has the names that it is kept under. -/
theorem Mirrors.name_eq (h : r.Mirrors store initial)
    (names : ∀ name ws, store.workspaces.get? name = some ws → ws.metadata.name = some name)
    {ws : WorkspaceInfo} (hget : r.workspaces.get? name = some ws) : ws.name = name := by
  have hinfo := h.workspaces name
  rw [hget, Option.map_some] at hinfo
  obtain ⟨kept, hkept, hreport⟩ := Option.map_eq_some_iff.mp hinfo
  calc ws.name = kept.info.name := by rw [hreport, RemoteStore.name_report]
    _ = name := Workspace.name_info (names name kept hkept)

/-- A workspace that lasts goes on to be reported. -/
theorem Mirrors.info_of_lasting (h : r.Mirrors store initial)
    (names : ∀ name ws, store.workspaces.get? name = some ws → ws.metadata.name = some name)
    (hlasts : (later.workspaces.get? name).map (initial.lasting name) =
      (store.workspaces.get? name).map (initial.lasting name)) :
    (later.workspaces.get? name).map Workspace.info =
      (r.workspaces.get? name).map (later.report initial) := by
  have hinfo := h.workspaces name
  cases hget : r.workspaces.get? name with
  | none =>
    rw [hget, Option.map_none, Option.map_eq_none_iff] at hinfo
    rw [hinfo, Option.map_none, Option.map_eq_none_iff] at hlasts
    rw [hlasts]
    rfl
  | some ws =>
    have hname := h.name_eq names hget
    rw [hget, Option.map_some] at hinfo
    obtain ⟨kept, hkept, hreport⟩ := Option.map_eq_some_iff.mp hinfo
    rw [hkept, Option.map_some] at hlasts
    obtain ⟨shown, hshown, hlasting⟩ := Option.map_eq_some_iff.mp hlasts
    rw [hshown, Option.map_some, Option.map_some]
    rw [← hname] at hkept hshown hlasting
    cases hinitial : initial.workspaces.contains ws.name with
    | true =>
      rw [RemoteStore.lasting_of_old hinitial, RemoteStore.lasting_of_old hinitial] at hlasting
      rw [hlasting, hreport, RemoteStore.report_of_old hinitial, RemoteStore.report_of_old hinitial]
    | false =>
      rw [RemoteStore.lasting_of_new hinitial, RemoteStore.lasting_of_new hinitial] at hlasting
      rw [Workspace.info_of_unassigned_eq hlasting, hreport,
        RemoteStore.report_of_new hinitial hkept, RemoteStore.report_of_new hinitial hshown]

/-- What a server holds on to goes on to be mirrored. -/
theorem Mirrors.of_holds (h : r.Mirrors store initial)
    (names : ∀ name ws, store.workspaces.get? name = some ws → ws.metadata.name = some name)
    (hholds : later.Holds store initial) : r.Mirrors later initial where
  workspaces name := h.info_of_lasting names (hholds.workspaces name)
  scheduled := h.scheduled
  kept name hname := hholds.contains (h.kept name hname)
  bindings workspace := by rw [hholds.bindings, h.bindings]
  reachable := h.reachable
  healthy := h.healthy

/-- A workspace that the server does not keep is new, and is not kept in memory. -/
theorem Mirrors.of_none (h : r.Mirrors store initial)
    (hnone : store.workspaces.get? name = none) :
    initial.workspaces.contains name = false ∧ r.workspaces.get? name = none := by
  constructor
  · by_contra hold
    have hkept := h.kept name (Bool.not_eq_false _ ▸ hold)
    rw [SortedMap.contains_eq_false_iff.mpr hnone] at hkept
    cases hkept
  · have hmirror := h.workspaces name
    rw [hnone, Option.map_none] at hmirror
    exact Option.map_eq_none_iff.mp hmirror.symm

/-- A workspace that is asked for looks like one that was just requested. -/
theorem info_newWorkspace (session : RemoteSession) (name project : String) :
    (session.newWorkspace name project).info =
      { requested name project with phase := .pending } := by
  have hmanaged : Annotations.isManaged Annotations.managedLabels = true := by
    rw [Annotations.isManaged, Annotations.managedLabels, SortedMap.get?_insert_self]
    exact beq_self_eq_true _
  have hdistinct : ([(Annotations.project, project),
      (Annotations.managedBy, Annotations.operatorId)].map (·.1)).Nodup := by
    show [Annotations.project, Annotations.managedBy].Nodup
    decide
  have hproject : (SortedMap.ofList [(Annotations.project, project),
      (Annotations.managedBy, Annotations.operatorId)]).get? Annotations.project = some project :=
    SortedMap.get?_insertAll_of_mem hdistinct List.mem_cons_self _
  have hinfo : (session.newWorkspace name project).info =
      ⟨name, .pending, none, Annotations.isManaged Annotations.managedLabels,
        (SortedMap.ofList [(Annotations.project, project),
          (Annotations.managedBy, Annotations.operatorId)]).get? Annotations.project⟩ := rfl
  rw [hinfo, hmanaged, hproject]
  rfl

/-- A workspace that comes up on both sides is mirrored. -/
theorem Mirrors.insertWorkspace (h : r.Mirrors store initial)
    (names : ∀ name ws, store.workspaces.get? name = some ws → ws.metadata.name = some name)
    {kept : Workspace} {ws : WorkspaceInfo} (creates : Nat)
    (hget : later.workspaces.get? name = some kept)
    (hholds : later.Holds { store with workspaces := store.workspaces.insert name kept } initial)
    (hinfo : kept.info = later.report initial ws) (hscheduled : ws.phase = .scheduling) :
    Mirrors { r with workspaces := r.workspaces.insert name ws, creates } later initial where
  workspaces other := by
    dsimp only
    by_cases hname : other = name
    · rw [hname, hget, SortedMap.get?_insert_self, Option.map_some, Option.map_some, hinfo]
    · rw [SortedMap.get?_insert_of_ne hname]
      refine h.info_of_lasting names ?_
      rw [hholds.workspaces, SortedMap.get?_insert_of_ne hname]
  scheduled other w hother hnew := by
    dsimp only at hother
    by_cases hname : other = name
    · rw [hname, SortedMap.get?_insert_self] at hother
      cases hother
      exact hscheduled
    · rw [SortedMap.get?_insert_of_ne hname] at hother
      exact h.scheduled other w hother hnew
  kept other hother :=
    hholds.contains (SortedMap.contains_insert_iff.mpr (.inr (h.kept other hother)))
  bindings workspace := by rw [hholds.bindings, h.bindings]
  reachable := h.reachable
  healthy := h.healthy

/-- A binding that is stored on both sides is mirrored. -/
theorem Mirrors.insertBinding (h : r.Mirrors store initial) {workspace : String}
    {b b' : ClusterRoleBinding} (hb : b.essence = b'.essence) (writes : SortedMap String Nat) :
    Mirrors { r with bindings := r.bindings.insert workspace b', writes }
      { store with bindings := store.bindings.insert workspace b } initial where
  workspaces := h.workspaces
  scheduled := h.scheduled
  kept := h.kept
  bindings other := by
    dsimp only
    by_cases hname : other = workspace
    · rw [hname, SortedMap.get?_insert_self, SortedMap.get?_insert_self, Option.map_some,
        Option.map_some, hb]
    · rw [SortedMap.get?_insert_of_ne hname, SortedMap.get?_insert_of_ne hname, h.bindings]
  reachable := h.reachable
  healthy := h.healthy

/-- What is rebuilt in memory is what is desired, which has the right name already. -/
theorem Mirrors.rebuiltBinding_eq (h : r.Mirrors store initial) (sound : store.Sound)
    (workspace : String) (subjects : List String) (now : Timestamp) :
    r.rebuiltBinding workspace subjects now =
      AccessBinding.desired (r.bindings.get? workspace) subjects r.sourceNamespace now := by
  have hname : (AccessBinding.desired (r.bindings.get? workspace) subjects r.sourceNamespace
      now).metadata.name = some AccessBinding.name := by
    have hsame := h.bindings workspace
    cases hget : r.bindings.get? workspace with
    | none => rfl
    | some b =>
      rw [hget, Option.map_some] at hsame
      obtain ⟨kept, hkept, hessence⟩ := Option.map_eq_some_iff.mp hsame
      calc b.metadata.name = kept.metadata.name := (congrArg (·.metadata.name) hessence).symm
        _ = some AccessBinding.name := sound.bindings workspace kept hkept
  rw [rebuiltBinding, ← hname]

/-- A binding is rebuilt on both sides, and the two are the same but for what the server assigns. -/
theorem Mirrors.rebuild (h : r.Mirrors store initial) (sound : store.Sound) {workspace : String}
    {b : ClusterRoleBinding} {subjects : List String} {now : Timestamp}
    (hb : b.unassigned = (AccessBinding.desired (store.bindings.get? workspace) subjects
      r.sourceNamespace now).unassigned)
    (hholds : later.Holds { store with bindings := store.bindings.insert workspace b } initial)
    (now' : Timestamp) :
    (r.writeBinding workspace subjects now').1 = .ok () ∧
      (r.writeBinding workspace subjects now').2.Mirrors later initial := by
  have hessence : b.essence = (r.rebuiltBinding workspace subjects now').essence := by
    rw [ClusterRoleBinding.essence_of_unassigned_eq hb, h.rebuiltBinding_eq sound]
    exact AccessBinding.essence_desired (h.bindings workspace) subjects _ now now'
  have hwrite : r.writeBinding workspace subjects now' = (.ok (), { r with
      bindings := r.bindings.insert workspace (r.rebuiltBinding workspace subjects now')
      writes := r.writes.insert workspace (r.writes.getD workspace 0 + 1) }) := by
    rw [writeBinding, h.reachable, if_neg Bool.false_ne_true, h.healthy,
      if_neg Bool.false_ne_true]
  rw [hwrite]
  exact ⟨rfl, (h.insertBinding hessence _).of_holds sound.workspaces hholds⟩

/-- The workspaces that a server lists are those in memory as it reports them. -/
theorem Mirrors.listed (h : r.Mirrors store initial) :
    store.workspaces.values.map Workspace.info =
      r.workspaces.values.map (store.report initial) := by
  have hsame : store.workspaces.map Workspace.info = r.workspaces.map (store.report initial) := by
    refine SortedMap.ext fun name => ?_
    rw [SortedMap.get?_map, SortedMap.get?_map, h.workspaces]
  rw [← SortedMap.values_map, ← SortedMap.values_map, hsame]

/-- Of the workspaces that were there before, the server lists the same. -/
theorem Mirrors.targets_report (h : r.Mirrors store initial)
    (names : ∀ name ws, store.workspaces.get? name = some ws → ws.metadata.name = some name) :
    (WorkspaceInfo.targets (r.workspaces.values.map (store.report initial))).filter
        (fun ws => initial.workspaces.contains ws.name) =
      WorkspaceInfo.targets r.workspaces.values := by
  let isOld (ws : WorkspaceInfo) : Bool := initial.workspaces.contains ws.name
  have hold : ∀ ws ∈ r.workspaces.values, ws.isTarget = true → isOld ws = true := by
    intro ws hws htarget
    obtain ⟨name, hget⟩ := SortedMap.exists_get?_of_mem_values hws
    by_contra hnew
    have hname := h.name_eq names hget
    have hphase := h.scheduled name ws hget (hname ▸ Bool.eq_false_iff.mpr hnew)
    rw [WorkspaceInfo.isTarget, hphase, Bool.and_eq_true] at htarget
    exact absurd htarget.2 (by decide)
  have hname (ws : WorkspaceInfo) : isOld (store.report initial ws) = isOld ws := by
    show initial.workspaces.contains _ = initial.workspaces.contains _
    rw [RemoteStore.name_report]
  have hsame : ∀ ws, isOld ws = true → store.report initial ws = ws :=
    fun _ hws => RemoteStore.report_of_old hws
  generalize r.workspaces.values = l at hold
  calc (WorkspaceInfo.targets (l.map (store.report initial))).filter isOld
    _ = (l.filter fun ws => isOld (store.report initial ws) &&
          (store.report initial ws).isTarget).map (store.report initial) := by
        rw [WorkspaceInfo.targets, List.filter_map, List.filter_map, List.filter_filter]
        rfl
    _ = (l.filter WorkspaceInfo.isTarget).map (store.report initial) := by
        refine congrArg (List.map _) (List.filter_congr fun ws hws => ?_)
        rw [hname]
        cases hws' : isOld ws with
        | true => rw [hsame ws hws', Bool.true_and]
        | false =>
          rw [Bool.false_and, eq_comm, Bool.eq_false_iff]
          exact fun htarget => Bool.eq_false_iff.mp hws' (hold ws hws htarget)
    _ = WorkspaceInfo.targets l := by
        refine (List.map_congr_left fun ws hws => ?_).trans (List.map_id _)
        obtain ⟨hmem, htarget⟩ := List.mem_filter.mp hws
        exact hsame ws (hold ws hmem htarget)

end InMemory

/-! ### Calls -/

/-- A call of the remote control plane. -/
inductive RemoteCall where
  /-- Looks a workspace up by its name. -/
  | getWorkspace (name : String)
  /-- Creates a workspace for a project, or accepts the one that is there. -/
  | createWorkspace (name project : String)
  /-- Lists the workspaces that can receive an access binding. -/
  | listWorkspaces
  /-- Makes the access binding of a workspace grant the role to exactly the subjects. -/
  | writeBinding (workspace : String) (subjects : List String)

/-- What a call is answered. -/
inductive RemoteAnswer where
  /-- What was found when a workspace was looked up, or the error. -/
  | looked (result : Except RemoteError (Option WorkspaceInfo))
  /-- The workspace that was created or accepted, or the error. -/
  | created (result : Except RemoteError WorkspaceInfo)
  /-- The workspaces that can receive an access binding. -/
  | listed (result : Except RemoteError (List WorkspaceInfo))
  /-- Whether a binding was written, or the error. -/
  | written (result : Except RemoteError Unit)

namespace RemoteCall

/-- The workspace of the call, if it has one, is named by a label. -/
def IsLabelled : RemoteCall → Prop
  | getWorkspace name => IsLabel name
  | createWorkspace name _ => IsLabel name
  | listWorkspaces => True
  | writeBinding workspace _ => IsLabel workspace

/-- The call through a session, as the exchange of requests that it is. -/
def exchange (session : RemoteSession) : RemoteCall → Exchange RemoteAnswer
  | getWorkspace name => (session.getWorkspace name).map .looked
  | createWorkspace name project => (session.createWorkspace name project).map .created
  | listWorkspaces => session.listWorkspaces.map .listed
  | writeBinding workspace subjects => (session.writeBinding workspace subjects).map .written

/-- The call in memory, at some time of the calendar. -/
def inMemory (now : Timestamp) (r : InMemory) : RemoteCall → RemoteAnswer × InMemory
  | getWorkspace name => (.looked (r.getWorkspace name), r)
  | createWorkspace name project =>
    let (result, r) := r.createWorkspace name project
    (.created result, r)
  | listWorkspaces => (.listed r.listWorkspaces, r)
  | writeBinding workspace subjects =>
    let (result, r) := r.writeBinding workspace subjects now
    (.written result, r)

/-- The state of a network after a sequence of calls through a session. -/
def serve {σ : Type} (session : RemoteSession) (net : Network σ) (calls : List RemoteCall)
    (state : σ) : σ :=
  calls.foldl (fun state call => ((call.exchange session).run net state).2) state

/-- The control plane in memory after a sequence of calls, each at some time. -/
def play (calls : List (RemoteCall × Timestamp)) (r : InMemory) : InMemory :=
  calls.foldl (fun r c => (c.1.inMemory c.2 r).2) r

end RemoteCall

/-- What a call is answered through a session that leaves `later` behind, and what it is answered in
memory, where there is `r`. A workspace that is new since the server had `initial` may be in another
phase, and may be listed because of that. -/
inductive Agrees (r : InMemory) (later initial : RemoteStore) : RemoteAnswer → RemoteAnswer → Prop
  /-- The same workspace is found, or none is found by either. -/
  | looked (found : Option WorkspaceInfo) : Agrees r later initial
      (.looked (.ok (found.map (later.report initial)))) (.looked (.ok found))
  /-- The same workspace is created or accepted, or it belongs to the same other project. -/
  | created (result : Except RemoteError WorkspaceInfo) : Agrees r later initial
      (.created (result.map (later.report initial))) (.created result)
  /-- The same workspaces are listed in the same order, and among them those new ones that the
  server reports to be ready. -/
  | listed {theirs mine : List WorkspaceInfo}
      (hall : theirs = WorkspaceInfo.targets (r.workspaces.values.map (later.report initial)))
      (hold : theirs.filter (fun ws => initial.workspaces.contains ws.name) = mine) :
      Agrees r later initial (.listed (.ok theirs)) (.listed (.ok mine))
  /-- The binding is written by both. -/
  | written : Agrees r later initial (.written (.ok ())) (.written (.ok ()))

/-- A failure in memory is the one of the server. -/
theorem Agrees.of_error {r : InMemory} {later initial : RemoteStore} {theirs : RemoteAnswer}
    {e : RemoteError} (h : Agrees r later initial theirs (.created (.error e))) :
    theirs = .created (.error e) := by
  cases h
  rfl

namespace InMemory

variable {σ : Type} {session : RemoteSession} {net : Network σ} {store : σ → RemoteStore}
  {initial : RemoteStore} {state : σ} {r : InMemory}

/-- A call through the session and in memory has answers that agree, and what is kept afterwards
corresponds again. -/
theorem Mirrors.call (h : r.Mirrors (store state) initial)
    (server : FaultFree session initial net store)
    (addressed : ∀ name, IsLabel name → ∃ address, session.workspaceUrl name = .ok address)
    (hns : r.sourceNamespace = session.sourceNamespace) (call : RemoteCall)
    (labelled : call.IsLabelled) (now : Timestamp) :
    let theirs := (call.exchange session).run net state
    let mine := call.inMemory now r
    Agrees r (store theirs.2) initial theirs.1 mine.1 ∧
      mine.2.Mirrors (store theirs.2) initial := by
  have names := (server.sound state).workspaces
  cases call with
  | getWorkspace name =>
    obtain ⟨later, hrun, hholds⟩ := server.getWorkspace state labelled
    have hlater := h.of_holds names hholds
    have hmine : r.getWorkspace name = .ok (r.workspaces.get? name) := by
      rw [getWorkspace, h.reachable, if_neg Bool.false_ne_true]
    dsimp only [RemoteCall.exchange, RemoteCall.inMemory, Exchange.map]
    rw [Exchange.run_bind, hrun, hmine]
    refine ⟨?_, hlater⟩
    rw [hlater.workspaces]
    exact .looked _
  | createWorkspace name project =>
    dsimp only [RemoteCall.exchange, RemoteCall.inMemory, Exchange.map]
    rw [Exchange.run_bind]
    cases hget : (store state).workspaces.get? name with
    | none =>
      obtain ⟨later, ws, hrun, hws, hkept, hholds⟩ :=
        server.createWorkspace_of_none state labelled project hget
      obtain ⟨hnew, hfree⟩ := h.of_none hget
      have hinfo : ws.info = (store later).report initial (requested name project) := by
        rw [Workspace.info_of_unassigned_eq hws, info_newWorkspace,
          RemoteStore.report_of_new hnew hkept]
      have hclaim : (requested name project).claim project = .ok (requested name project) :=
        if_pos rfl
      have hmine : r.createWorkspace name project = (.ok (requested name project), { r with
          workspaces := r.workspaces.insert name (requested name project)
          creates := r.creates + 1 }) := by
        rw [createWorkspace, h.reachable, if_neg Bool.false_ne_true, hfree]
      rw [hrun, hmine, hinfo, RemoteStore.claim_report, hclaim]
      exact ⟨.created (.ok (requested name project)),
        h.insertWorkspace names _ hkept hholds hinfo rfl⟩
    | some old =>
      obtain ⟨later, ws, hrun, hkept, hholds⟩ :=
        server.createWorkspace_of_some state labelled project hget
      have hlater := h.of_holds names hholds
      have hsame := hlater.workspaces name
      rw [hkept, Option.map_some] at hsame
      obtain ⟨mine, hfound, hreport⟩ := Option.map_eq_some_iff.mp hsame.symm
      have hmine : r.createWorkspace name project = (mine.claim project, r) := by
        rw [createWorkspace, h.reachable, if_neg Bool.false_ne_true, hfound]
      rw [hrun, hmine, ← hreport, RemoteStore.claim_report]
      exact ⟨.created _, hlater⟩
  | listWorkspaces =>
    obtain ⟨later, hrun, hholds⟩ := server.listWorkspaces state
    have hlater := h.of_holds names hholds
    have hmine : r.listWorkspaces = .ok (WorkspaceInfo.targets r.workspaces.values) := by
      rw [listWorkspaces, h.reachable, if_neg Bool.false_ne_true]
    dsimp only [RemoteCall.exchange, RemoteCall.inMemory, Exchange.map]
    rw [Exchange.run_bind, hrun, hmine]
    refine ⟨?_, hlater⟩
    rw [hlater.listed]
    exact .listed rfl (hlater.targets_report (server.sound later).workspaces)
  | writeBinding workspace subjects =>
    obtain ⟨address, haddress⟩ := addressed workspace labelled
    obtain ⟨later, now', b, hrun, hb, hholds⟩ :=
      server.writeBinding state labelled haddress subjects
    rw [← hns] at hb
    obtain ⟨hok, hlater⟩ := h.rebuild (server.sound state) hb hholds now
    dsimp only [RemoteCall.exchange, RemoteCall.inMemory, Exchange.map]
    rw [Exchange.run_bind, hrun, hok]
    exact ⟨.written, hlater⟩

/-- A call does not change where the roster comes from. -/
theorem sourceNamespace_inMemory (call : RemoteCall) (now : Timestamp) (r : InMemory) :
    (call.inMemory now r).2.sourceNamespace = r.sourceNamespace := by
  cases call with
  | getWorkspace name => rfl
  | createWorkspace name project =>
    show (r.createWorkspace name project).2.sourceNamespace = _
    rw [createWorkspace]
    split
    · rfl
    · split <;> rfl
  | listWorkspaces => rfl
  | writeBinding workspace subjects =>
    show (r.writeBinding workspace subjects now).2.sourceNamespace = _
    rw [writeBinding]
    split
    · rfl
    · split <;> rfl

/-- So does a sequence of calls, whatever they are. By induction on the calls. -/
theorem Mirrors.calls (h : r.Mirrors (store state) initial)
    (server : FaultFree session initial net store)
    (addressed : ∀ name, IsLabel name → ∃ address, session.workspaceUrl name = .ok address)
    (hns : r.sourceNamespace = session.sourceNamespace) (calls : List (RemoteCall × Timestamp))
    (labelled : ∀ c ∈ calls, c.1.IsLabelled) :
    (RemoteCall.play calls r).Mirrors
        (store (RemoteCall.serve session net (calls.map (·.1)) state)) initial ∧
      (RemoteCall.play calls r).sourceNamespace = session.sourceNamespace := by
  induction calls generalizing r state with
  | nil => exact ⟨h, hns⟩
  | cons c rest ih =>
    obtain ⟨hfirst, hrest⟩ := List.forall_mem_cons.mp labelled
    obtain ⟨-, hnext⟩ := h.call server addressed hns c.1 hfirst c.2
    exact ih hnext ((sourceNamespace_inMemory c.1 c.2 r).trans hns) hrest

end InMemory

variable {σ : Type}

/-- A session that settings lead to is called on a server without faults, and the control plane in
memory that corresponds to what the server keeps is called in the same way, at any times. After
every sequence of calls, each for a workspace that is named by a label, the next one is answered
alike on both sides, but for the phases of workspaces that are new since, and the bindings that are
kept after it are the same in every workspace, but for the times at which they were rebuilt and what
servers assign. -/
theorem every_call_is_answered_as_in_memory {config : RemoteConfig} {ns : String}
    {session : RemoteSession} (hsession : RemoteSession.ofConfig config ns = .ok session)
    {net : Network σ} {store : σ → RemoteStore} {start : σ}
    (server : FaultFree session (store start) net store) (calls : List (RemoteCall × Timestamp))
    (labelled : ∀ c ∈ calls, c.1.IsLabelled) :
    ∀ before call now rest, calls = before ++ (call, now) :: rest →
      let state := RemoteCall.serve session net (before.map (·.1)) start
      let r := RemoteCall.play before ((store start).inMemory ns)
      let theirs := (call.exchange session).run net state
      let mine := call.inMemory now r
      Agrees r (store theirs.2) (store start) theirs.1 mine.1 ∧
        ∀ workspace, ((store theirs.2).bindings.get? workspace).map (·.essence) =
          (mine.2.bindings.get? workspace).map (·.essence) := by
  rintro before call now rest rfl
  have hns : ((store start).inMemory ns).sourceNamespace = session.sourceNamespace := by
    obtain ⟨_, -, -, hfields⟩ := RemoteSession.ofConfig_eq_ok_iff.mp hsession
    rw [hfields]
    rfl
  have addressed := fun name (h : IsLabel name) => RemoteSession.exists_workspaceUrl hsession h
  have hstart := InMemory.mirrors_inMemory (server.sound start) ns
  obtain ⟨hmirrors, hns⟩ := hstart.calls server addressed hns before fun c hc =>
    labelled c (List.mem_append_left _ hc)
  obtain ⟨hagrees, hnext⟩ := hmirrors.call server addressed hns call
    (labelled (call, now) (by simp)) now
  exact ⟨hagrees, hnext.bindings⟩

/-! ### A collision -/

/-- A workspace is created, its binding is written, and another project asks for it. -/
def collidingCalls : List (RemoteCall × Timestamp) := [
  (.createWorkspace "zot" "zot", .epoch),
  (.writeBinding "zot" ["oidc:ann@x.io"], .epoch),
  (.createWorkspace "zot" "argo", .epoch)]

/-- The name of the workspace is a label, so that it may be used in calls. -/
theorem isLabel_zot : IsLabel "zot" where
  nonempty := by decide
  chars := List.all_eq_true.mp rfl
  length_le := by decide
  first := by decide
  last := by decide

/-- A server that has nothing yet, and takes any binding, answers the last call with the collision,
as it is answered in memory, and keeps a binding with the subject. -/
theorem collision_is_answered_as_in_memory :
    let session := LogicalCluster.sessionAt "/kcp/clusters/root"
    let net := PlainStore.network session
    let before := collidingCalls.take 2
    let state := RemoteCall.serve session net (before.map (·.1)) PlainStore.empty
    let theirs := ((RemoteCall.createWorkspace "zot" "argo").exchange session).run net state
    RemoteSession.ofConfig (LogicalCluster.settings none) "maintainerd" = .ok session ∧
    FaultFree session PlainStore.empty.toRemoteStore net PlainStore.toRemoteStore ∧
    (∀ c ∈ collidingCalls, c.1.IsLabelled) ∧
    theirs.1 = .created (.error (.collision "zot" "argo" "zot")) ∧
    ∃ b, theirs.2.bindings.get? "zot" = some b ∧ b.subjectNames = ["oidc:ann@x.io"] := by
  intro session
  have hsession : RemoteSession.ofConfig (LogicalCluster.settings none) "maintainerd" =
      .ok session := by
    obtain ⟨told, htold, hurl⟩ := LogicalCluster.exists_target_of_settings
    refine RemoteSession.ofConfig_eq_ok_iff.mpr ⟨told, htold, ?_, rfl⟩
    rw [hurl]
    rfl
  have hproper : session.root.target.IsProper :=
    ⟨List.all_eq_true.mp rfl, List.all_eq_true.mp rfl, rfl⟩
  have hchars : "root".toList.all PathAndQuery.isPathChar = true := by decide
  have hplain : PathAndQuery.IsPlain session.rootPath.toList :=
    PathAndQuery.isPlain_of_isPathChar (List.all_eq_true.mp hchars)
  have server : FaultFree session PlainStore.empty.toRemoteStore (PlainStore.network session)
      PlainStore.toRemoteStore := PlainStore.faultFree hproper hplain _
  have labelled : ∀ c ∈ collidingCalls, c.1.IsLabelled := by
    simp [collidingCalls, RemoteCall.IsLabelled, isLabel_zot]
  -- What the server does is known from the agreement, and is not computed.
  generalize PlainStore.network session = net at server ⊢
  obtain ⟨hagrees, hbindings⟩ := every_call_is_answered_as_in_memory hsession server collidingCalls
    labelled (collidingCalls.take 2) (.createWorkspace "zot" "argo") .epoch [] rfl
  refine ⟨hsession, server, labelled, Agrees.of_error hagrees, ?_⟩
  obtain ⟨b, hb, hessence⟩ := Option.map_eq_some_iff.mp (hbindings "zot")
  have hsubjects : b.subjectNames = b.essence.subjectNames := rfl
  rw [hessence] at hsubjects
  exact ⟨b, hb, hsubjects⟩

end WorkspaceAccess
