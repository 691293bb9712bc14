import WorkspaceAccess.Index.Project

/-!
# What the Project Index Remembers

After an event the index remembers of a project just the ready workspace that the event records, and
of all others what it remembered before. A sweep is asked for when it comes to remember something
new.

`ProjectIndex.note` is what the index remembers after an event, without what it asks for. A system
in which news are delivered late has to say what the index will know when they come, and that is a
matter of the memory alone: the news are folded with `note` over what it knows. That the index, when
it handles an event, comes to remember just this is a lemma about each kind of event.

A workspace comes to be remembered in one way only: an event of its project records it with the
ready phase while the index did not remember it for this project. This is also the reason for a
sweep of all workspaces, so that no workspace is ever remembered without one.

## Main results

* `Project.readyWorkspace?_eq_some_iff`: the ready workspace of a project is the one that is
  recorded with the ready phase.
* `ReadyProjects.get?_apply`: a project that was added or changed is remembered as it is.
* `ProjectIndex.note_applied`, `ProjectIndex.note_deleted`: what the index remembers after an event.
* `ProjectIndex.asks_of_handle`: a workspace that comes to be remembered is recorded on its project,
  and is a reason for a sweep.
-/

namespace WorkspaceAccess

/-- The ready workspace of a project is the one that is recorded with the ready phase. -/
theorem Project.readyWorkspace?_eq_some_iff {p : Project} {w : String} :
    p.readyWorkspace? = some w ↔
      p.annotations.get? Annotations.workspacePhase = some "Ready" ∧
        p.annotations.get? Annotations.workspaceName = some w := by
  rw [Project.readyWorkspace?, WorkspaceAccess.readyWorkspace?]
  have hready : (Phase.ofText? (p.annotations.get? Annotations.workspacePhase)).isReady = true ↔
      p.annotations.get? Annotations.workspacePhase = some "Ready" := by
    rw [Phase.isReady, beq_iff_eq]
    cases p.annotations.get? Annotations.workspacePhase with
    | none => simp [Phase.ofText?]
    | some text => rw [Phase.ofText?, Phase.ofText_eq_ready_iff, Option.some.injEq]
  rw [← hready]
  split
  · rename_i h
    simp [h]
  · rename_i h
    simp [h]

namespace ReadyProjects

variable {ready : ReadyProjects} {id j : ResourceId} {project : Project}

/-- A project that was added or changed is remembered as it is. -/
theorem get?_apply (ready : ReadyProjects) (id j : ResourceId) (project : Project) :
    (ready.apply id project).1.get? j =
      if KeyOrder.compare j id = .eq then project.readyWorkspace? else ready.get? j := by
  rw [apply]
  cases hready : project.readyWorkspace? with
  | none => exact SortedMap.get?_erase ready id j
  | some w =>
    simp only
    split
    · rename_i hsame
      split
      · rename_i hj
        rw [KeyOrder.compare_eq_iff.mp hj, hsame]
      · rfl
    · exact SortedMap.get?_insert ready id j w

/-- A workspace that comes to be remembered is a reason for a sweep. -/
theorem asks_of_apply {w : String} (h : (ready.apply id project).1.get? j = some w) :
    ready.get? j = some w ∨
      project.readyWorkspace? = some w ∧ Trigger.workspaces ∈ (ready.apply id project).2 := by
  rw [get?_apply] at h
  split at h
  · rename_i hj
    obtain rfl := KeyOrder.compare_eq_iff.mp hj
    by_cases hsame : ready.get? j = some w
    · exact .inl hsame
    · refine .inr ⟨h, ?_⟩
      rw [apply, h]
      simp only [hsame, if_false, List.mem_singleton]
  · exact .inl h

end ReadyProjects

namespace ProjectIndex

variable {ready : ReadyProjects} {event : WatchEvent Project}

/-- What the index remembers after an event, whether or not it asks for something. -/
def note (ready : ReadyProjects) (event : WatchEvent Project) : ReadyProjects :=
  match handle ready event with
  | .ok (ready, _) => ready
  | .error _ => ready

/-- A project that can be identified is handled, as the one of that namespace and name. -/
theorem handle_applied {project : Project} {id : ResourceId}
    (hid : project.metadata.identify .project = .ok id) (ready : ReadyProjects) :
    handle ready (.applied project) = .ok (apply ready id project) := by
  rw [handle, hid]
  rfl

/-- Of a project that was added or changed the index remembers what it records. -/
theorem note_applied {project : Project} {id : ResourceId}
    (hid : project.metadata.identify .project = .ok id) (ready : ReadyProjects) :
    note ready (.applied project) = (ready.apply id project).1 := by
  rw [note, handle_applied hid]
  rfl

/-- Of a project that was removed the index remembers nothing. -/
theorem note_deleted (ready : ReadyProjects) (id : ResourceId) :
    note ready (.deleted id) = ready.erase id := rfl

/-- A workspace that comes to be remembered by an event is recorded on the project, and is a reason
for a sweep. -/
theorem asks_of_handle {later : ReadyProjects} {demand : ProjectDemand} {j : ResourceId}
    {w : String} (h : handle ready event = .ok (later, demand)) (hw : later.get? j = some w) :
    ready.get? j = some w ∨
      (∃ project, event = .applied project ∧ project.readyWorkspace? = some w) ∧
        Trigger.workspaces ∈ demand.sweeps := by
  cases event with
  | deleted id =>
    cases h
    have hw : (ready.erase id).get? j = some w := hw
    rw [SortedMap.get?_erase] at hw
    split at hw
    · cases hw
    · exact .inl hw
  | applied project =>
    cases hid : project.metadata.identify .project with
    | error e =>
      rw [handle, hid] at h
      cases h
    | ok id =>
      rw [handle_applied hid] at h
      cases h
      refine (ReadyProjects.asks_of_apply hw).imp_right fun hnew => ?_
      exact ⟨⟨project, rfl, hnew.1⟩, hnew.2⟩

end ProjectIndex

end WorkspaceAccess
