import WorkspaceAccess.Queue.Controller
import WorkspaceAccess.Reconcile.Progress

/-!
# Controllers and Their Reconciles

A crew is a controller together with the reconciles that it has in flight, each an activity that
waits. Reconciles are resumed when their time has come, and started when the controller says so;
between two of its waits a reconcile is alone in the world.

The controller does not know about activities and the activities do not know about the controller.
What connects them is the key: a run that the controller starts becomes the reconcile of its key
(`Crew.act`), and an activity that ends becomes the end of the run of its key (`Crew.record`). When
the controller collapses, the reconciles in flight are given up with whatever effects they have had.

A crew does its work in one fixed order. `WorkspaceAccess.Proofs.Deployment.Crew` shows that all of
it is made of steps that could come in any other order as well, so that the laws that are proved for
every order hold of a crew.
-/

namespace WorkspaceAccess

/-- What a controller is for: the reconcile of a key, and the policy by which keys are retried. -/
structure Job (κ ε : Type) where
  /-- The limits of the controller, and when it retries. -/
  policy : QueuePolicy ε
  /-- The reconcile of a key before a deadline. -/
  reconcile : κ → Instant → Activity Unit (Except ε Action)

/-- A reconcile in flight, which has not ended and so waits for something. -/
structure Task (κ ε : Type) where
  /-- The key that is reconciled. -/
  key : κ
  /-- What the reconcile waits for. -/
  pause : Pause Unit (Except ε Action)

/-- A controller and its reconciles in flight, in the order in which they began to wait. -/
structure Crew (κ ε : Type) [KeyOrder κ] where
  /-- The controller that starts the reconciles and takes up their ends. -/
  controller : Controller κ ε := .initial
  /-- The reconciles in flight, with what is left of each. -/
  tasks : List (Task κ ε) := []

namespace Crew

variable {κ ε ω : Type} [KeyOrder κ]

/-- A reconcile of a key has come to its end, or to a wait. An end is told to the controller, a wait
goes behind those that are there. -/
def record (now : Instant) (crew : Crew κ ε) (key : κ) :
    Progress Unit (Except ε Action) → Crew κ ε
  | .ended result =>
    { crew with controller := crew.controller.endRun now key (.ofResult result) }
  | .paused pause => { crew with tasks := crew.tasks ++ [⟨key, pause⟩] }

/-- The reconciles whose time has come are resumed, one after the other, each in the world that the
one before has left. -/
def resumeDue (host : Host Unit ω) (now : Instant) (crew : Crew κ ε) (world : ω) :
    Crew κ ε × ω :=
  let (due, waiting) := crew.tasks.partition fun task => task.pause.time ≤ now
  due.foldl
    (fun (crew, world) task =>
      let (progress, world) := task.pause.resume host world now
      (crew.record now task.key progress, world))
    ({ crew with tasks := waiting }, world)

/-- The controller does what lies before it, and the reconciles that it starts go on until they
wait. -/
def act (job : Job κ ε) (host : Host Unit ω) (now : Instant) (crew : Crew κ ε) (world : ω) :
    Crew κ ε × ω :=
  let (controller, runs) := crew.controller.settle job.policy now
  runs.foldl
    (fun (crew, world) run =>
      let crew := { crew with controller := crew.controller.beginRun }
      let (progress, world) := (job.reconcile run.key run.deadline).proceed host world now
      (crew.record now run.key progress, world))
    ({ controller, tasks := if controller.stage = .collapsed then [] else crew.tasks }, world)

/-- Keys are enqueued. -/
def enqueueAll (crew : Crew κ ε) (keys : List κ) : Crew κ ε :=
  { crew with controller := crew.controller.enqueueAll keys }

/-- The controller is told to shut down. -/
def signal (crew : Crew κ ε) : Crew κ ε := { crew with controller := crew.controller.signal }

/-- The controller has stopped. -/
def hasStopped (crew : Crew κ ε) : Bool := crew.controller.stage = .stopped

/-- The times at which something is to be done. -/
def times (job : Job κ ε) (now : Instant) (crew : Crew κ ε) : List Instant :=
  (crew.controller.nextTime? job.policy now).toList ++ crew.tasks.map (·.pause.time)

end Crew

end WorkspaceAccess
