import WorkspaceAccess.Queue.Controller
import WorkspaceAccess.Simulation.Timeline

/-!
# Rehearsals of a Controller

A controller is rehearsed with reconciles that do nothing but take time and come to an outcome that
was laid down before. The script holds the outcomes of every key in order; a key for which none is
left succeeds at once.

In a rehearsal the queue is seen by itself, without the work of its reconciles: which key is started
when, with how much time until its deadline, and how it ended. The log has all of this in order. The
controller is the same as in a deployment, so what is seen here is what it does there with
reconciles that take as long and end as they do.
-/

namespace WorkspaceAccess

/-- A reconcile as it was laid down: how long it takes, and how it ends. -/
structure Scripted where
  /-- The nanoseconds that it takes. -/
  stall : Nat
  /-- The outcome that it ends with. -/
  outcome : Outcome Unit

/-- What is seen of the reconciles of a key, at a time that the log adds. -/
inductive RehearsalEvent where
  /-- One starts, with so much time until its deadline. -/
  | started (budget : Nat)
  /-- One ends, with this outcome. -/
  | ended (outcome : Outcome Unit)

/-- A reconcile in flight that will end at a time, whatever happens until then. -/
structure Enactment where
  /-- The key that is reconciled. -/
  key : String
  /-- The time of the end. -/
  time : Instant
  /-- The outcome that it will end with. -/
  outcome : Outcome Unit

/-- A controller that is rehearsed, with the script and the log. -/
structure Rehearsal where
  /-- The controller that is rehearsed. -/
  controller : Controller String Unit := .initial
  /-- The reconciles that are left for each key. -/
  script : SortedMap String (List Scripted)
  /-- The reconciles in flight, in the order of their starts. -/
  inFlight : List Enactment := []
  /-- What was seen, with the keys and the times, in order. -/
  log : List (String × Instant × RehearsalEvent) := []
  /-- The time at which the controller had stopped. -/
  stoppedAt : Option Instant := none

namespace Rehearsal

/-- A key is enqueued. -/
def enqueue (r : Rehearsal) (k : String) : Rehearsal :=
  { r with controller := r.controller.enqueue k }

/-- The controller is told to shut down. -/
def signal (r : Rehearsal) : Rehearsal := { r with controller := r.controller.signal }

/-- Something is seen of the reconciles of a key. -/
def note (r : Rehearsal) (now : Instant) (k : String) (event : RehearsalEvent) : Rehearsal :=
  { r with log := r.log ++ [(k, now, event)] }

/-- A reconcile ends. -/
def endRun (now : Instant) (r : Rehearsal) (k : String) (outcome : Outcome Unit) : Rehearsal :=
  { r with controller := r.controller.endRun now k outcome }.note now k (.ended outcome)

/-- The reconciles whose time has come end, in the order of their starts and not of their ends. -/
def endDue (now : Instant) (r : Rehearsal) : Rehearsal :=
  let (due, rest) := r.inFlight.partition fun e => e.time ≤ now
  due.foldl (fun r e => r.endRun now e.key e.outcome) { r with inFlight := rest }

/-- Takes the next reconcile of a key from the script. -/
def next (r : Rehearsal) (k : String) : Scripted × Rehearsal :=
  match r.script.getD k [] with
  | [] => (⟨0, .success .done⟩, r)
  | first :: rest => (first, { r with script := r.script.insert k rest })

/-- A reconcile starts; it ends at once if it takes no time. -/
def begin (now : Instant) (r : Rehearsal) (run : Run String) : Rehearsal :=
  let (scripted, r) := r.next run.key
  let r := { r with controller := r.controller.beginRun }.note now run.key
    (.started (run.deadline - now))
  if scripted.stall = 0 then r.endRun now run.key scripted.outcome
  else { r with inFlight := r.inFlight ++ [⟨run.key, now + scripted.stall, scripted.outcome⟩] }

/-- The controller does what lies before it, and the reconciles that it starts begin. A controller
that collapses gives up those in flight. -/
def settle (policy : QueuePolicy Unit) (now : Instant) (r : Rehearsal) : Rehearsal :=
  let (controller, runs) := r.controller.settle policy now
  let inFlight := if controller.stage = .collapsed then [] else r.inFlight
  let stoppedAt := r.stoppedAt.or (if controller.stage = .stopped then some now else none)
  runs.foldl (begin now) { r with controller, inFlight, stoppedAt }

/-- The times at which something is to be done. -/
def times (policy : QueuePolicy Unit) (now : Instant) (r : Rehearsal) : List Instant :=
  (r.controller.nextTime? policy now).toList ++ r.inFlight.map (·.time)

/-- A rehearsal as a process in virtual time: what is due ends, then the controller acts. -/
def timeline (policy : QueuePolicy Unit) : Timeline Rehearsal where
  round now r := (r.endDue now).settle policy now
  next? now r := (r.times policy now).min?

end Rehearsal

end WorkspaceAccess
