import WorkspaceAccess.Proofs.Access.Coverage
import WorkspaceAccess.Proofs.Deployment.Team
import WorkspaceAccess.Simulation.Deployment

/-!
# The Whole System

Both controllers with their reconciles, the index of the projects, and one outside world. What
happens to a project is posted at once, and reaches the index in order, but at any later time; what
the index asks for is enqueued then. Everything else comes in any order: the steps of the
controllers, the turns of their reconciles, reconciles that are cut short, keys that are enqueued
for other reasons, the passing of time, the shutdown, and changes of the outside world.

The changes from outside keep to rules (`PostedWorld.Change`). Of the annotations that describe the
workspace of a project nobody but the reconciles writes any. A workspace that is ready stays ready,
with the mark that it has, and bindings are not removed. Whatever is not said here may change as it
likes: the staff, the faults, the workspaces that are not ready and the contents of the bindings.

The news are events of projects, each with the project as it was when it was posted. So what the
index hears may be older than what it could see by then, but it hears of everything in order; the
last of the news of a project tells what has become of it. The index handles the oldest of them, or
comes to a stop at a project that cannot be identified.

## Main results

* `PostedWorld.views`: calls do to the world what they do without the news, so that what is proved
  about a reconcile in memory holds for one whose calls are posted.
* `Reachable.lifecycle`, `Reachable.sweeps`: some steps of one controller and its reconciles are
  steps of the whole system.
-/

namespace WorkspaceAccess

/-! ### Workspaces that are ready -/

namespace InMemory

/-- The workspace is there and ready, whoever manages it. -/
def IsReady (r : InMemory) (w : String) : Prop :=
  ∃ ws, r.workspaces.get? w = some ws ∧ ws.phase = .ready

/-- Every phase reads back from its text, as those do that were read from one: no unknown phase is
written like a known one. -/
def Legible (r : InMemory) : Prop :=
  ∀ k ws, r.workspaces.get? k = some ws → Phase.ofText ws.phase.text = ws.phase

/-- What was achieved is kept. -/
structure Progresses (old new : InMemory) : Prop where
  /-- A workspace that is ready stays ready, with its mark. -/
  ready {w : String} {ws : WorkspaceInfo} : old.workspaces.get? w = some ws → ws.phase = .ready →
    ∃ later, new.workspaces.get? w = some later ∧ later.phase = .ready ∧
      later.managed = ws.managed
  /-- Bindings are not removed, only written again. -/
  bound : old.KeepsBound new

end InMemory

/-! ### The world and the news -/

/-- The outside world, and what happened to projects and was not delivered yet. -/
structure PostedWorld where
  /-- The outside world, which the reconciles read and write. -/
  world : World
  /-- What happened to projects and is not delivered yet, the oldest first. -/
  news : List (WatchEvent Project) := []

namespace PostedWorld

/-- What a patch has made of a project, by its answer and by the projects before and after it. -/
def newsOf (id : ResourceId) (old new : Store Project) :
    Except ApiError Bool → List (WatchEvent Project)
  | .ok true => (new.objects.get? id).toList.map .applied
  | .ok false => if old.objects.contains id then [.deleted id] else []
  | .error _ => []

/-- What a call has made of the projects, as the news that the index will hear of. -/
def posts (old new : World) : (call : Call Unit) → call.Answer → List (WatchEvent Project)
  | .patchProject id _, answer => newsOf id old.projects new.projects answer
  | _, _ => []

/-- What a call is answered, and the world afterwards. -/
def answer (call : Call Unit) (clock : Clock) (w : PostedWorld) : call.Answer × PostedWorld :=
  let (r, world) := World.answer call clock w.world
  (r, { world, news := w.news ++ posts w.world world call r })

/-- The world as the host of activities, with a calendar. -/
def host (wall : Instant → Timestamp) : Host Unit PostedWorld where
  delay w call := w.world.delays.getD call.label 0
  answer := answer
  report counts w := { w with world := w.world.report counts }
  wall := wall

/-- Calls do to the world what they do without the news. -/
theorem views (wall : Instant → Timestamp) :
    (host wall).Views (World.host wall) PostedWorld.world where
  answer {call clock answer old later} h := by
    obtain ⟨hanswer, rfl⟩ := Prod.mk.inj h
    exact Prod.ext hanswer rfl
  report _ _ := rfl
  wall := rfl

end PostedWorld

/-! ### Changes from outside -/

/-- The annotations that describe the workspace of a project. -/
def Annotations.workspaceKeys : List String := [workspaceName, workspaceUrl, workspacePhase]

/-- A project has the description of a workspace that the one before had, and none if it is new. -/
def Project.KeepsDescription (old : Option Project) (new : Project) : Prop :=
  ∀ k ∈ Annotations.workspaceKeys,
    new.annotations.get? k = old.bind fun p => p.annotations.get? k

/-- What others may change, and what is posted then. -/
inductive PostedWorld.Change (old : PostedWorld) : PostedWorld → Prop
  /-- Anything is changed but the projects, of which there are no news. -/
  | elsewhere {world : World} (hobjects : world.projects.objects = old.world.projects.objects)
      (hprogress : old.world.remote.Progresses world.remote) (hnamed : world.remote.WellNamed)
      (hlegible : world.remote.Legible) : Change old { old with world }
  /-- A project is added or changed, or only posted once more. -/
  | put {id : ResourceId} {project : Project} (hid : project.metadata.identify .project = .ok id)
      (hkeeps : Project.KeepsDescription (old.world.projects.objects.get? id) project) :
      Change old {
        world := { old.world with projects := old.world.projects.put id project }
        news := old.news ++ [.applied project] }
  /-- A project is removed, or it is only posted once more that it is gone. -/
  | remove (id : ResourceId) :
      Change old {
        world := { old.world with projects := old.world.projects.remove id }
        news := old.news ++ [.deleted id] }

/-! ### The system -/

/-- The state of the whole system. -/
structure System where
  /-- The outside world, and the news of it that are under way. -/
  posted : PostedWorld
  /-- The projects that record a ready workspace, as far as the index knows. -/
  ready : ReadyProjects := SortedMap.empty
  /-- The lifecycle controller and its reconciles, one for a project. -/
  lifecycle : Team ResourceId Lifecycle.Failure
  /-- The controller of the sweeps and its reconciles. -/
  sweeps : Team Trigger Sweep.Failure

namespace System

/-- The oldest of the news reaches the index, and what the index asks for is enqueued. The index
goes no further than to a project that cannot be identified. -/
def deliver (s : System) : System :=
  match s.posted.news with
  | [] => s
  | event :: news =>
    match ProjectIndex.handle s.ready event with
    | .error _ => s
    | .ok (ready, demand) =>
      { posted := { s.posted with news }
        ready
        lifecycle := s.lifecycle.enqueueAll demand.lifecycle
        sweeps := s.sweeps.enqueueAll demand.sweeps }

/-- Time goes by, for both controllers alike. It never goes back. -/
def wait (s : System) (later : Instant) : System :=
  { s with lifecycle := s.lifecycle.wait later, sweeps := s.sweeps.wait later }

/-- What may happen next. -/
inductive Step (config : DeploymentConfig) (wall : Instant → Timestamp) : System → System → Prop
  /-- Something happens to the lifecycle controller or to its reconciles. -/
  | lifecycle (s : System) {team : Team ResourceId Lifecycle.Failure} {posted : PostedWorld}
      (h : Team.Step config.lifecycleJob (PostedWorld.host wall) s.lifecycle s.posted team posted) :
      Step config wall s { s with lifecycle := team, posted }
  /-- Something happens to the controller of the sweeps or to its reconciles. -/
  | sweeps (s : System) {team : Team Trigger Sweep.Failure} {posted : PostedWorld}
      (h : Team.Step config.sweepJob (PostedWorld.host wall) s.sweeps s.posted team posted) :
      Step config wall s { s with sweeps := team, posted }
  /-- The oldest of the news is delivered to the index. -/
  | deliver (s : System) : Step config wall s s.deliver
  /-- The world is changed from outside, within what others may do. -/
  | change (s : System) {posted : PostedWorld} (h : s.posted.Change posted) :
      Step config wall s { s with posted }
  /-- Time goes by for both controllers, to the same moment. -/
  | wait (s : System) {later : Instant} (hlifecycle : s.lifecycle.course.now ≤ later)
      (hsweeps : s.sweeps.course.now ≤ later) : Step config wall s (s.wait later)

/-- The system before anything has happened, in a given world and at a given time. -/
def initial (world : World) (now : Instant) : System where
  posted := { world }
  lifecycle := { course := { now } }
  sweeps := { course := { now } }

/-- What comes about in a world without projects. -/
inductive Reachable (config : DeploymentConfig) (wall : Instant → Timestamp) : System → Prop
  /-- Nothing has happened, and there are no projects yet. -/
  | initial {world : World} (now : Instant) (hempty : world.projects.objects = SortedMap.empty)
      (hnamed : world.remote.WellNamed) (hlegible : world.remote.Legible) :
      Reachable config wall (initial world now)
  /-- Something more happens, to either controller or to the world. -/
  | next {s t : System} (h : Reachable config wall s) (step : Step config wall s t) :
      Reachable config wall t

variable {config : DeploymentConfig} {wall : Instant → Timestamp} {s : System}
  {posted : PostedWorld}

/-- The lifecycle controller and its reconciles go on for some steps. -/
theorem Reachable.lifecycle (h : Reachable config wall s)
    {team : Team ResourceId Lifecycle.Failure}
    (hsteps : Team.Steps config.lifecycleJob (PostedWorld.host wall) s.lifecycle s.posted
      team posted) : Reachable config wall { s with lifecycle := team, posted } := by
  induction hsteps with
  | refl => exact h
  | next _ hstep ih => exact ih.next (.lifecycle _ hstep)

/-- The controller of the sweeps and its reconciles go on for some steps. -/
theorem Reachable.sweeps (h : Reachable config wall s) {team : Team Trigger Sweep.Failure}
    (hsteps : Team.Steps config.sweepJob (PostedWorld.host wall) s.sweeps s.posted team posted) :
    Reachable config wall { s with sweeps := team, posted } := by
  induction hsteps with
  | refl => exact h
  | next _ hstep ih => exact ih.next (.sweeps _ hstep)

end System

end WorkspaceAccess
