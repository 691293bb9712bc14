import WorkspaceAccess.Proofs.Access.FullRebuild
import WorkspaceAccess.Proofs.Workspace.Leg

/-!
# What a Reconcile of a Project Changes

In a world in memory a reconcile of a project changes two things: it adds the workspace that belongs
to the name of the project, where none is kept under that name, and it annotates the project with a
workspace that it was given. It is only given workspaces that are its own or nobody's.

This is the footprint that other modules rely on when reconciles overlap: whatever they are about,
bindings, the staff and the metrics are not their concern, and no two workspaces are confused. Each
statement is a case distinction over the moves of a reconcile, with the calls that they make, and is
stated by what the world is before and after one move.

What is recorded of a workspace are three annotations: its name, its phase and its address, with the
empty text where it has none. They are looked up here one by one, so that nothing else has to know
how the list of them is built.

## Main results

* `WorkspaceInfo.claim_eq_ok_iff`: a workspace is accepted unless it is another project's.
* `InMemory.createWorkspace_cases`: a request for a workspace is refused, or answered with the one
  that is there, or the workspace is added.
* `get?_desiredAnnotations`: what is recorded of a workspace.
* `Leg.Move.remote_cases`, `Leg.Move.projects_cases`: what a move changes of the control plane and
  of the projects.
* `Leg.Move.recording_cases`, `Leg.Move.serves`: which workspace it gets, and that it serves the
  project.
-/

namespace WorkspaceAccess

/-- A workspace is the project's own, or nobody's, which is when it is not refused. -/
def WorkspaceInfo.MayServe (ws : WorkspaceInfo) (project : String) : Prop :=
  ws.project = none ∨ ws.project = some project

/-- A workspace is accepted unless it is another project's. -/
theorem WorkspaceInfo.claim_eq_ok_iff {ws accepted : WorkspaceInfo} {project : String} :
    ws.claim project = .ok accepted ↔ accepted = ws ∧ ws.MayServe project := by
  rw [claim, MayServe]
  cases ws.project with
  | none => simp [eq_comm]
  | some owner =>
    by_cases h : owner = project
    · simp [h, eq_comm]
    · simp [h]

namespace InMemory

variable {r : InMemory}

/-- A request for a workspace is refused, or answered with the one that is there, or the workspace
is added. -/
theorem createWorkspace_cases (r : InMemory) (name project : String) :
    (∃ e, r.createWorkspace name project = (.error e, r)) ∨
      (∃ ws, r.workspaces.get? name = some ws ∧
        r.createWorkspace name project = (ws.claim project, r)) ∨
      (r.workspaces.get? name = none ∧
        r.createWorkspace name project = (.ok (requested name project), { r with
          workspaces := r.workspaces.insert name (requested name project)
          creates := r.creates + 1 })) := by
  rw [createWorkspace]
  split
  · exact .inl ⟨_, rfl⟩
  split
  · exact .inr (.inl ⟨_, ‹_›, rfl⟩)
  · exact .inr (.inr ⟨‹_›, rfl⟩)

/-- A workspace that is found is kept under the name that was asked for. -/
theorem get?_of_getWorkspace {name : String} {found : Option WorkspaceInfo}
    (h : r.getWorkspace name = .ok found) : r.workspaces.get? name = found := by
  rw [getWorkspace] at h
  split at h
  · cases h
  · exact Except.ok.inj h

/-- A request for a workspace keeps the workspaces under their names. -/
theorem WellNamed.createWorkspace (h : r.WellNamed) (name project : String) :
    (r.createWorkspace name project).2.WellNamed := by
  rcases r.createWorkspace_cases name project with ⟨e, hsame⟩ | ⟨found, -, hsame⟩ | ⟨-, hadds⟩
  · rw [hsame]
    exact h
  · rw [hsame]
    exact h
  · rw [hadds]
    exact h.insert (requested name project) rfl

/-- A workspace that is given to a project is kept under the name asked for, and serves it. -/
theorem serves_of_createWorkspace {name project : String} {ws : WorkspaceInfo}
    (h : (r.createWorkspace name project).1 = .ok ws) :
    (r.createWorkspace name project).2.workspaces.get? name = some ws ∧ ws.MayServe project := by
  rcases r.createWorkspace_cases name project with
    ⟨e, hfails⟩ | ⟨found, hget, hfound⟩ | ⟨-, hadds⟩
  · rw [hfails] at h
    cases h
  · rw [hfound] at h ⊢
    obtain ⟨rfl, hserves⟩ := WorkspaceInfo.claim_eq_ok_iff.mp h
    exact ⟨hget, hserves⟩
  · rw [hadds] at h ⊢
    cases h
    exact ⟨SortedMap.get?_insert_self _ _ _, .inr rfl⟩

end InMemory

/-- A request for a workspace in a world in memory. -/
theorem World.create_of_answer {wall : Instant → Timestamp} {clock : Clock} {world later : World}
    {name project : String} {answer : Except RemoteError WorkspaceInfo}
    (h : (World.host wall).answer (.createWorkspace () name project) clock world =
      (answer, later)) :
    world.remote.createWorkspace name project = (answer, later.remote) ∧
      later.projects = world.projects := by
  rcases hcreate : world.remote.createWorkspace name project with ⟨r, remote⟩
  simp only [World.host, World.answer, hcreate] at h
  cases h
  exact ⟨rfl, rfl⟩

/-- An object that is found is kept under the identity that was asked for. -/
theorem Store.get?_of_get {α : Type} {s : Store α} {id : ResourceId} {found : Option α}
    (h : s.get id = .ok found) : s.objects.get? id = found := by
  rw [get] at h
  split at h
  · cases h
  · exact Except.ok.inj h

/-- Objects are annotated by a patch, or as they were. -/
theorem Store.get?_of_patch {α : Type} {annotate : α → Annotations → α} {s : Store α}
    {id j : ResourceId} {annotations : Annotations} {object : α}
    (h : (s.patch annotate id annotations).2.objects.get? j = some object) :
    s.objects.get? j = some object ∨
      j = id ∧ ∃ old, s.objects.get? id = some old ∧ object = annotate old annotations := by
  rw [patch] at h
  split at h
  · exact .inl h
  split at h
  · have h : (s.objects.erase id).get? j = some object := h
    rw [SortedMap.get?_erase] at h
    split at h
    · cases h
    · exact .inl h
  split at h
  · exact .inl h
  · rename_i old hold
    have h : (s.objects.insert id (annotate old annotations)).get? j = some object := h
    rw [SortedMap.get?_insert] at h
    split at h
    · rename_i hj
      exact .inr ⟨KeyOrder.compare_eq_iff.mp hj, old, hold, (Option.some.inj h).symm⟩
    · exact .inl h

namespace Lifecycle

/-- What is recorded of a workspace, under each of the three keys. -/
theorem get?_desiredAnnotations (ws : WorkspaceInfo) {e : String × String}
    (h : e ∈ [(Annotations.workspaceName, ws.name), (Annotations.workspaceUrl, ws.url.getD ""),
      (Annotations.workspacePhase, (recordedPhase ws).text)]) :
    (desiredAnnotations ws).get? e.1 = some e.2 := by
  refine SortedMap.get?_insertAll_of_mem ?_ h _
  show [Annotations.workspaceName, Annotations.workspaceUrl, Annotations.workspacePhase].Nodup
  decide

/-- The name of a workspace is recorded as it is. -/
theorem get?_desiredAnnotations_name (ws : WorkspaceInfo) :
    (desiredAnnotations ws).get? Annotations.workspaceName = some ws.name :=
  get?_desiredAnnotations ws (e := (Annotations.workspaceName, ws.name)) (by simp)

/-- The address of a workspace is recorded, the empty text for none. -/
theorem get?_desiredAnnotations_url (ws : WorkspaceInfo) :
    (desiredAnnotations ws).get? Annotations.workspaceUrl = some (ws.url.getD "") :=
  get?_desiredAnnotations ws (e := (Annotations.workspaceUrl, ws.url.getD "")) (by simp)

/-- The phase of a workspace is recorded, as ready only if there is an address. -/
theorem get?_desiredAnnotations_phase (ws : WorkspaceInfo) :
    (desiredAnnotations ws).get? Annotations.workspacePhase = some (recordedPhase ws).text :=
  get?_desiredAnnotations ws (e := (Annotations.workspacePhase, (recordedPhase ws).text)) (by simp)

namespace Leg

variable {wall : Instant → Timestamp} {config : Config} {id : ResourceId} {now : Instant}
  {world later : World} {leg next : Leg Unit} {deed : Deed Unit}

/-- A move adds the workspace of the project, where there is none, or leaves the remote control
plane alone. -/
theorem Move.remote_cases
    (h : Move (World.host wall) config id now world leg deed next later) :
    later.remote = world.remote ∨
      world.remote.workspaces.get? (workspaceName id.name) = none ∧
        (∃ current, leg = creating () current) ∧
        later.remote.workspaces = world.remote.workspaces.insert (workspaceName id.name)
          (InMemory.requested (workspaceName id.name) id.name) ∧
        later.remote.creates = world.remote.creates + 1 := by
  cases h with
  | fetch h | fetchNothing h | fetchFails h | connect h | connectFails h | look h =>
    obtain ⟨-, rfl⟩ := Prod.mk.inj h
    exact .inl rfl
  | giveUp => exact .inl rfl
  | patch h =>
    obtain ⟨-, rfl⟩ := Prod.mk.inj h
    exact .inl rfl
  | @create _ current _ _ h =>
    obtain ⟨hcreate, -⟩ := World.create_of_answer h
    rcases world.remote.createWorkspace_cases (workspaceName id.name) id.name with
      ⟨e, hsame⟩ | ⟨found, -, hsame⟩ | ⟨hnone, hadds⟩
    · exact .inl (congrArg Prod.snd (hcreate.symm.trans hsame))
    · exact .inl (congrArg Prod.snd (hcreate.symm.trans hsame))
    · have hremote := congrArg Prod.snd (hcreate.symm.trans hadds)
      exact .inr ⟨hnone, ⟨current, rfl⟩, congrArg InMemory.workspaces hremote,
        congrArg InMemory.creates hremote⟩

/-- A move patches the project with a workspace that is to be recorded, or leaves the projects
alone. -/
theorem Move.projects_cases
    (h : Move (World.host wall) config id now world leg deed next later) :
    later.projects = world.projects ∨
      ∃ ws, leg = recording ws ∧ later.projects =
        (world.projects.patch Project.annotate id (desiredAnnotations ws)).2 := by
  cases h with
  | fetch h | fetchNothing h | fetchFails h | connect h | connectFails h | look h =>
    obtain ⟨-, rfl⟩ := Prod.mk.inj h
    exact .inl rfl
  | create h => exact .inl (World.create_of_answer h).2
  | giveUp => exact .inl rfl
  | @patch ws _ _ h =>
    obtain ⟨-, rfl⟩ := Prod.mk.inj h
    exact .inr ⟨ws, rfl, rfl⟩

/-- A workspace that was obtained and is to be recorded is the one of the answer. -/
theorem eq_ok_of_obtained {σ : Type} {current : Annotations}
    {answer : Except RemoteError WorkspaceInfo} {ws : WorkspaceInfo}
    (h : recording ws = (obtained config current answer : Leg σ)) : answer = .ok ws := by
  cases answer with
  | error e => cases h
  | ok found =>
    rw [obtained] at h
    split at h <;> cases h
    rfl

/-- A workspace that is to be recorded was found and serves the project, or it was given to the
project. -/
theorem Move.recording_cases {σ ω : Type} {host : Host σ ω} {world later : ω} {leg : Leg σ}
    {deed : Deed σ} {ws : WorkspaceInfo}
    (h : Move host config id now world leg deed (recording ws) later) :
    (∃ session name, ws.MayServe id.name ∧
      host.answer (.getWorkspace session name) (host.clock now) world = (.ok (some ws), later)) ∨
      ∃ session, host.answer (.createWorkspace session (workspaceName id.name) id.name)
        (host.clock now) world = (.ok ws, later) := by
  generalize hnext : (recording ws : Leg σ) = next at h
  cases h with
  | fetch | fetchNothing | fetchFails | connectFails | giveUp => cases hnext
  | connect =>
    rw [connected] at hnext
    split at hnext <;> cases hnext
  | @patch _ answer => cases answer <;> cases hnext
  | @look session current name answer _ h =>
    rcases answer with e | ⟨_ | found⟩
    · cases hnext
    · cases hnext
    · obtain ⟨rfl, hserves⟩ := WorkspaceInfo.claim_eq_ok_iff.mp (eq_ok_of_obtained hnext)
      exact .inl ⟨session, name, hserves, h⟩
  | @create session _ _ _ h =>
    obtain rfl := eq_ok_of_obtained hnext
    exact .inr ⟨session, h⟩

/-- A workspace that is to be recorded is kept under its name, and serves the project. -/
theorem Move.serves {ws : WorkspaceInfo} (hnamed : world.remote.WellNamed)
    (h : Move (World.host wall) config id now world leg deed (recording ws) later) :
    later.remote.workspaces.get? ws.name = some ws ∧ ws.MayServe id.name := by
  rcases h.recording_cases with ⟨_, name, hserves, hfound⟩ | ⟨_, hgiven⟩
  · obtain ⟨hanswer, rfl⟩ := Prod.mk.inj hfound
    have hget : world.remote.workspaces.get? name = some ws :=
      InMemory.get?_of_getWorkspace hanswer
    exact ⟨hnamed name ws hget ▸ hget, hserves⟩
  · obtain ⟨hcreate, -⟩ := World.create_of_answer hgiven
    obtain ⟨hget, hserves⟩ :=
      InMemory.serves_of_createWorkspace (congrArg Prod.fst hcreate)
    have hlater := hnamed.createWorkspace (workspaceName id.name) id.name
    rw [hcreate] at hget hlater
    exact ⟨hlater _ ws hget ▸ hget, hserves⟩

end Leg

end Lifecycle

end WorkspaceAccess
