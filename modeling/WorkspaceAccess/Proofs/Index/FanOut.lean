import Mathlib.Data.List.TakeWhile
import WorkspaceAccess.Proofs.Index.Identity
import WorkspaceAccess.Proofs.Index.Project

/-!
# What the Project Index Asks For

Projects are watched for two reasons. Every change of a project is a reason to look after its
workspace, so each project that is applied reaches its lifecycle, once for each event and in the
order of the events. And a workspace that has become ready has no access binding yet, so a sweep is
asked for at the *edges* of readiness: when an event records a ready workspace that the event before
it of the same project did not record. Edges have to be found from the events alone, since a project
is applied many times while its workspace is ready.

The module states a law of what is asked for (`ProjectIndex.demand`) that looks at the list of all
events before, newest first, and finds in it the last one of the same project
(`ProjectIndex.lastEvent?`). The index does not keep that list. It keeps for each project the ready
workspace that was recorded last, and the proofs show that this is enough: an index *knows* the past
when it has for each project what the last event of it recorded (`ProjectIndex.Knows`), an index
that knows the past answers the next event by the law, and it knows the past with that event
afterwards. The law mentions neither the index nor the function that identifies a project; which
project an event is about is said by the namespace and the name that the project carries
(`WatchEvent.project?`).

## Main results

* `Knows.handle_cases`: one event, by a case for each kind of event: it is handled by the law, or it
  is about a project that cannot be identified and is refused.
* `Knows.handleAll`: any number of events, by the induction of `handleAll_by_law`.
* `lifecycle_demandsInOrder`: by the law the lifecycle gets the projects that are applied, in order.
* `demandsInOrder_filter`: by the law the events of some projects ask for the same when all other
  events are left out, since a law that looks at the last event of one project does not see others.
* `project_events_fan_out`: all of it, of the index itself.
* `interleaved_projects_do_not_meet`: three projects, two of them of one name in two namespaces,
  whose events are interleaved.
-/

namespace WorkspaceAccess

namespace WatchEvent

/-- The project that an event is about: the one of the namespace and the name that the project
carries, or the one that was removed. -/
def project? (event : WatchEvent Project) : Option ResourceId := event.about? Project.metadata

/-- The project of the event can be told from others: it has a namespace and a name. -/
def hasProject (event : WatchEvent Project) : Bool := event.project?.isSome

/-- The workspace that an event records as ready, by the annotations of the project. A removal
records none. -/
def ready? : WatchEvent Project → Option String
  | applied project =>
    if project.annotations.get? Annotations.workspacePhase = some "Ready" then
      project.annotations.get? Annotations.workspaceName
    else none
  | deleted _ => none

/-- The project is applied by the event and not removed by it. -/
def isApplied : WatchEvent Project → Bool
  | applied _ => true
  | deleted _ => false

/-- The event is about one of these projects; an event about none of them says nothing to those who
follow them. -/
def isAbout (mine : ResourceId → Bool) (event : WatchEvent Project) : Bool :=
  event.project?.any mine

/-- A project that is applied records its ready workspace. -/
theorem ready?_applied (p : Project) : ready? (.applied p) = p.readyWorkspace? := by
  ext w
  rw [Project.readyWorkspace?_eq_some_iff, ready?]
  split <;> simp [*]

end WatchEvent

namespace ProjectIndex

/-! ### The law -/

/-- The last event of a project. Of events the newest is the first. -/
def lastEvent? (id : ResourceId) (past : List (WatchEvent Project)) : Option (WatchEvent Project) :=
  past.find? fun event => event.project? = some id

/-- An event records a ready workspace, and the event before it of the same project did not record
the same one. -/
def IsEdge (past : List (WatchEvent Project)) (id : ResourceId) (event : WatchEvent Project) :
    Prop :=
  event.ready?.isSome ∧ (lastEvent? id past).bind WatchEvent.ready? ≠ event.ready?

instance (past : List (WatchEvent Project)) (id : ResourceId) (event : WatchEvent Project) :
    Decidable (IsEdge past id event) := inferInstanceAs (Decidable (_ ∧ _))

/-- What an event asks for by the law, after the events before it: a project that is applied is
handed to its lifecycle, and a sweep is asked for at an edge. -/
def demand (past : List (WatchEvent Project)) (event : WatchEvent Project) : ProjectDemand :=
  match event.project? with
  | none => ⟨[], []⟩
  | some id =>
    ⟨if event.isApplied then [id] else [], if IsEdge past id event then [.workspaces] else []⟩

/-- What each event asks for by the law, in order. -/
def demandsInOrder :
    List (WatchEvent Project) → List (WatchEvent Project) → List ProjectDemand
  | _, [] => []
  | past, event :: rest => demand past event :: demandsInOrder (event :: past) rest

variable {ready : ReadyProjects} {past : List (WatchEvent Project)} {event : WatchEvent Project}
  {project : Project} {id : ResourceId}

/-- The law of an event whose project can be identified. -/
theorem demand_of_project (h : event.project? = some id) (past : List (WatchEvent Project)) :
    demand past event =
      ⟨if event.isApplied then [id] else [],
        if IsEdge past id event then [.workspaces] else []⟩ := by
  rw [demand, h]

/-- An event is the last one about its own project, and leaves those about others as they are. -/
theorem lastEvent?_cons (h : event.project? = some id) (past : List (WatchEvent Project))
    (j : ResourceId) :
    lastEvent? j (event :: past) = if id = j then some event else lastEvent? j past := by
  rw [lastEvent?, List.find?_cons, h]
  by_cases hj : id = j <;> simp [hj, lastEvent?]

/-! ### What the index knows -/

/-- The index knows of each project what the last event of it recorded. -/
def Knows (ready : ReadyProjects) (past : List (WatchEvent Project)) : Prop :=
  ∀ id, ready.get? id = (lastEvent? id past).bind WatchEvent.ready?

/-- An index that has seen nothing knows the empty past. -/
theorem knows_empty : Knows SortedMap.empty [] := fun _ => rfl

/-- A project that is applied is handled by the law, and known from then on. -/
theorem Knows.apply (h : Knows ready past) (hid : project.metadata.identify .project = .ok id) :
    (ProjectIndex.apply ready id project).2 = demand past (.applied project) ∧
      Knows (ProjectIndex.apply ready id project).1 (.applied project :: past) := by
  have hproject : (WatchEvent.applied project).project? = some id :=
    ObjectMeta.identify_eq_ok_iff_id?.mp hid
  constructor
  · have hedge : IsEdge past id (.applied project) ↔
        ∃ w, project.readyWorkspace? = some w ∧ ready.get? id ≠ some w := by
      rw [IsEdge, WatchEvent.ready?_applied, h id]
      cases project.readyWorkspace? <;> simp
    rw [demand_of_project hproject, ProjectIndex.apply, ReadyProjects.apply]
    cases hready : project.readyWorkspace? with
    | none => simp [hedge, hready, WatchEvent.isApplied]
    | some w =>
      by_cases hsame : ready.get? id = some w <;>
        simp [hedge, hready, hsame, WatchEvent.isApplied]
  · intro j
    have hget : (ProjectIndex.apply ready id project).1.get? j = _ :=
      ReadyProjects.get?_apply ready id j project
    rw [hget, lastEvent?_cons hproject]
    by_cases hj : id = j
    · rw [if_pos hj, if_pos (KeyOrder.compare_eq_iff.mpr hj.symm), Option.bind_some,
        WatchEvent.ready?_applied]
    · rw [if_neg hj, if_neg fun h => hj (KeyOrder.compare_eq_iff.mp h).symm]
      exact h j

/-- A project that is removed is handled by the law, and not known from then on. -/
theorem Knows.delete (h : Knows ready past) (id : ResourceId) :
    (ProjectIndex.delete ready id).2 = demand past (.deleted id) ∧
      Knows (ProjectIndex.delete ready id).1 (.deleted id :: past) := by
  constructor
  · rw [demand_of_project rfl]
    simp [ProjectIndex.delete, IsEdge, WatchEvent.isApplied, WatchEvent.ready?]
  · intro j
    have hget : (ProjectIndex.delete ready id).1.get? j = _ := SortedMap.get?_erase ready id j
    rw [hget, lastEvent?_cons rfl]
    by_cases hj : id = j
    · rw [if_pos hj, if_pos (KeyOrder.compare_eq_iff.mpr hj.symm)]
      rfl
    · rw [if_neg hj, if_neg fun h => hj (KeyOrder.compare_eq_iff.mp h).symm]
      exact h j

/-- An event whose project can be identified is handled by the law, and any other one is not handled
at all. -/
theorem Knows.handle_cases (h : Knows ready past) (event : WatchEvent Project) :
    (event.hasProject = true ∧ ∃ later, handle ready event = .ok (later, demand past event) ∧
        Knows later (event :: past)) ∨
      event.hasProject = false ∧ ∃ e, handle ready event = .error e := by
  cases event with
  | deleted id =>
    obtain ⟨hdemand, hknows⟩ := h.delete id
    exact .inl ⟨rfl, _, by rw [← hdemand]; rfl, hknows⟩
  | applied project =>
    rw [WatchEvent.hasProject, WatchEvent.project?, WatchEvent.about?]
    cases hcarried : project.metadata.id? with
    | some id =>
      have hid : project.metadata.identify .project = .ok id :=
        ObjectMeta.identify_eq_ok_iff_id?.mpr hcarried
      obtain ⟨hdemand, hknows⟩ := h.apply hid
      exact .inl ⟨rfl, _, by rw [handle_applied hid, ← hdemand], hknows⟩
    | none =>
      obtain ⟨e, hid⟩ := ObjectMeta.exists_identify_eq_error hcarried .project
      refine .inr ⟨rfl, e, ?_⟩
      rw [handle, hid]
      rfl

/-- Events are handled by the law, until one of them is about a project that cannot be identified,
and the index knows them then. -/
theorem Knows.handleAll (h : Knows ready past) (events : List (WatchEvent Project)) :
    let handled := events.takeWhile WatchEvent.hasProject
    let ended := WorkspaceAccess.handleAll handle ready events
    ended.2.1 = demandsInOrder past handled ∧ Knows ended.1 (handled.reverse ++ past) :=
  handleAll_by_law (fun _ => rfl) (fun _ _ _ => rfl) handle_cases h events

/-! ### What follows from the law -/

/-- The lifecycle gets each project that is applied, in order. -/
theorem lifecycle_demandsInOrder (past events : List (WatchEvent Project)) :
    (demandsInOrder past events).flatMap (·.lifecycle) =
      (events.filter WatchEvent.isApplied).filterMap WatchEvent.project? := by
  induction events generalizing past with
  | nil => rfl
  | cons event rest ih =>
    rw [demandsInOrder, List.flatMap_cons, ih, demand]
    cases hproject : event.project? with
    | none => cases happlied : event.isApplied <;> simp [happlied, hproject]
    | some id => cases happlied : event.isApplied <;> simp [happlied, hproject]

/-- What an event asks for depends on the events of its own project alone. -/
theorem demand_filter {mine : ResourceId → Bool} (h : event.isAbout mine = true)
    (past : List (WatchEvent Project)) :
    demand (past.filter (·.isAbout mine)) event = demand past event := by
  obtain ⟨id, hproject, hmine⟩ : ∃ id, event.project? = some id ∧ mine id = true := by
    rw [WatchEvent.isAbout] at h
    cases hproject : event.project? with
    | none => simp [hproject] at h
    | some id => exact ⟨id, rfl, by simpa [hproject] using h⟩
  have hlast : lastEvent? id (past.filter (·.isAbout mine)) = lastEvent? id past := by
    rw [lastEvent?, lastEvent?, List.find?_filter]
    congr 1
    funext other
    by_cases hother : other.project? = some id <;> simp [WatchEvent.isAbout, hother, hmine]
  have hedge : IsEdge (past.filter (·.isAbout mine)) id event ↔ IsEdge past id event := by
    rw [IsEdge, IsEdge, hlast]
  simp only [demand_of_project hproject, hedge]

/-- So does what the events of some projects ask for. -/
theorem demandsInOrder_filter (mine : ResourceId → Bool) (past events : List (WatchEvent Project)) :
    demandsInOrder (past.filter (·.isAbout mine)) (events.filter (·.isAbout mine)) =
      ((events.zip (demandsInOrder past events)).filter (·.1.isAbout mine)).map (·.2) := by
  induction events generalizing past with
  | nil => rfl
  | cons event rest ih =>
    rw [demandsInOrder, List.zip_cons_cons]
    have hrest := ih (event :: past)
    cases hevent : event.isAbout mine with
    | true =>
      simp only [List.filter_cons, hevent, if_true, List.map_cons, demandsInOrder,
        demand_filter hevent] at hrest ⊢
      rw [hrest]
    | false =>
      simp only [List.filter_cons, hevent, Bool.false_eq_true, if_false] at hrest ⊢
      exact hrest

/-- The index hands every project that is applied to its lifecycle, in order, and asks for a sweep
just where a ready workspace is recorded that the event before of the same project did not record.
What it remembers is what the last event of each project recorded, and what the events of some
projects ask for is the same without all other events. An event whose project cannot be identified
ends the handling. -/
theorem project_events_fan_out (events : List (WatchEvent Project)) :
    let handled := events.takeWhile WatchEvent.hasProject
    let ended := WorkspaceAccess.handleAll handle SortedMap.empty events
    ended.2.1 = demandsInOrder [] handled ∧
      ended.2.1.flatMap (·.lifecycle) =
        (handled.filter WatchEvent.isApplied).filterMap WatchEvent.project? ∧
      (∀ id, ended.1.get? id = (lastEvent? id handled.reverse).bind WatchEvent.ready?) ∧
      ∀ mine : ResourceId → Bool,
        (WorkspaceAccess.handleAll handle SortedMap.empty
            (handled.filter (·.isAbout mine))).2.1 =
          ((handled.zip ended.2.1).filter (·.1.isAbout mine)).map (·.2) := by
  intro handled ended
  obtain ⟨hdemands, hknows⟩ := knows_empty.handleAll events
  rw [List.append_nil] at hknows
  refine ⟨hdemands, ?_, hknows, fun mine => ?_⟩
  · rw [hdemands]
    exact lifecycle_demandsInOrder [] handled
  · obtain ⟨hmine, -⟩ := knows_empty.handleAll (handled.filter (·.isAbout mine))
    have hall : (handled.filter (·.isAbout mine)).takeWhile WatchEvent.hasProject =
        handled.filter (·.isAbout mine) := by
      refine List.takeWhile_eq_self_iff.mpr fun event hevent => ?_
      exact List.mem_takeWhile_imp (List.mem_filter.mp hevent |>.1)
    rw [hmine, hall, hdemands]
    exact demandsInOrder_filter mine [] handled

/-- A project of which annotations record a workspace and its phase. -/
def recorded (id : ResourceId) (workspace phase : String) : Project where
  metadata := {
    name := some id.name
    ns := some id.ns
    annotations := some (.ofList [
      (Annotations.workspaceName, workspace), (Annotations.workspacePhase, phase)]) }
  spec := {}

/-- The events of three projects, two of which have the same name and record the same workspace. One
of these is removed and comes back, and the third one ceases to be ready. The last event but one is
of a project without a namespace. -/
def interleavedEvents : List (WatchEvent Project) := [
  .applied (recorded ⟨"maintainerd", "zot"⟩ "zot" "Ready"),
  .applied (recorded ⟨"elsewhere", "zot"⟩ "zot" "Ready"),
  .applied (recorded ⟨"maintainerd", "zot"⟩ "zot" "Ready"),
  .applied (recorded ⟨"maintainerd", "argo"⟩ "argo" "Ready"),
  .deleted ⟨"maintainerd", "zot"⟩,
  .applied (recorded ⟨"elsewhere", "zot"⟩ "zot" "Ready"),
  .applied (recorded ⟨"maintainerd", "argo"⟩ "argo" "Initializing"),
  .applied (recorded ⟨"maintainerd", "zot"⟩ "zot" "Ready"),
  .applied { metadata := { name := some "zot" }, spec := {} },
  .applied (recorded ⟨"maintainerd", "argo"⟩ "argo" "Ready")]

/-- Each of the three projects reaches its lifecycle whenever it is applied, and asks for a sweep at
its own edges: the project that is removed does so again when it comes back, although the other one
of its name stayed ready. Without the events of other projects each of its events asks for the same.
The project without a namespace ends the handling. -/
theorem interleaved_projects_do_not_meet :
    let ended := WorkspaceAccess.handleAll handle SortedMap.empty interleavedEvents
    ended.2.1.flatMap (·.lifecycle) =
        [⟨"maintainerd", "zot"⟩, ⟨"elsewhere", "zot"⟩, ⟨"maintainerd", "zot"⟩,
          ⟨"maintainerd", "argo"⟩, ⟨"elsewhere", "zot"⟩, ⟨"maintainerd", "argo"⟩,
          ⟨"maintainerd", "zot"⟩] ∧
      ended.2.1.map (·.sweeps) =
        [[.workspaces], [.workspaces], [], [.workspaces], [], [], [], [.workspaces]] ∧
      ended.1.get? ⟨"maintainerd", "zot"⟩ = some "zot" ∧
      ended.1.get? ⟨"elsewhere", "zot"⟩ = some "zot" ∧
      ended.1.get? ⟨"maintainerd", "argo"⟩ = none ∧
      ((WorkspaceAccess.handleAll handle SortedMap.empty
          ((interleavedEvents.takeWhile WatchEvent.hasProject).filter
            (·.isAbout (· = ⟨"maintainerd", "zot"⟩)))).2.1.map (·.sweeps)) =
        [[.workspaces], [], [], [.workspaces]] ∧
      ended.2.2 = some (.noNamespace .project) := by
  obtain ⟨hdemands, hlifecycle, hready, halone⟩ := project_events_fan_out interleavedEvents
  refine ⟨hlifecycle.trans (by decide), ?_, (hready _).trans (by decide), (hready _).trans
    (by decide), (hready _).trans (by decide), ?_, by decide⟩
  · rw [hdemands]
    decide
  · rw [halone, hdemands]
    decide

end ProjectIndex

end WorkspaceAccess
