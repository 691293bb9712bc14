import WorkspaceAccess.Proofs.Queue.Log

/-!
# The Course of a Controller

A controller lives among others: keys are enqueued, reconciles begin and end, time goes by and the
shutdown is signalled, in any order, and in between the controller does its steps. A *course* is a
controller at a point in time with the log of what happened to its keys so far.

The steps of a course are those of the world around the controller and those of the controller
itself (`Course.Step`). The former are free: any key may be enqueued at any time, a reconcile in
flight may end in any way once it has begun, time may go by as much as it likes, and the shutdown
may be signalled more than once. The latter are what the controller does next, which is no choice
(`Course.act`). Nothing is assumed about how soon the controller gets to do its next step, nor about
how the reconciles share the workers, so that what is proved for every reachable course
(`Course.Reachable`) holds for every schedule of the tasks of a program.

A reconcile is in flight from its start on, and it begins later, when its task is first run. The
course keeps apart those that were started and have not begun (`Course.fresh`), since a controller
that collapses gives up the ones and the others in different ways, and the metrics count a reconcile
only when it begins.

The log is part of a course and not of the controller: `Controller.doings` says what is written down
for a step, and no step reads it. It is what the modules on the work queue state their invariants
about.

Two small courses recur as witnesses: `busy`, in which one key is active and dirty while another one
waits, and those that other modules build on it.
-/

namespace WorkspaceAccess

/-! ### The events of a step -/

namespace Controller

variable {κ ε : Type} [KeyOrder κ]

/-- The time of the retry that an outcome makes the controller record, if it does. It is seen by the
metrics, which count the retries that are recorded and nothing else. -/
def scheduled? (policy : QueuePolicy ε) (now : Instant) (c : Controller κ ε) (k : κ)
    (outcome : Outcome ε) : Option Instant :=
  let d := c.weigh policy now k outcome
  if d.metrics.requeues = c.metrics.requeues then none else d.book.retries.get? k

/-- The time of the retry of a key, if it is due. -/
def dueTime? (c : Controller κ ε) (now : Instant) (k : κ) : Option Instant :=
  (c.book.retries.get? k).filter (· ≤ now)

/-- What happens to the keys when an alarm may ring: the key that is called is woken up when its
retry is due, and nothing happens to it otherwise. -/
def rung (now : Instant) (c : Controller κ ε) : QueueLog κ ε :=
  match (c.alarms.poll now).1 with
  | some k => (c.dueTime? now k).toList.map fun time => (k, .retried time)
  | none => []

/-- What happens to the keys when the next thing that lies before a serving controller is done, in
order. The cases are those of `Controller.takeUp?`. -/
def takenUp (policy : QueuePolicy ε) (now : Instant) (c : Controller κ ε) : QueueLog κ ε :=
  match c.ended with
  | (k, outcome) :: rest =>
    [(k, .completed outcome ({ c with ended := rest }.scheduled? policy now k outcome))]
  | [] =>
    if c.alarms.isAwake now then c.rung now else c.inbox.map fun k => (k, .received)

/-- What happens to the keys in a step that starts reconciles, in order: something is taken up, and
then keys are started. Nothing happens to a key when the controller only leaves its stage. -/
def doings (policy : QueuePolicy ε) (now : Instant) (c : Controller κ ε) (runs : List (Run κ)) :
    QueueLog κ ε :=
  if c.stage = .serving ∧ c.signalled = false ∧ c.isOverdrawn = false then
    c.takenUp policy now ++ runs.map fun run => (run.key, .started)
  else []

end Controller

/-! ### Courses -/

/-- A controller at a point in time, and what happened so far. The course knows more than the
controller: which reconciles have yet to begin, and the past of every key. -/
structure Course (κ ε : Type) [KeyOrder κ] where
  /-- The time, which only `Step.wait` changes. -/
  now : Instant
  /-- The controller, with its bookkeeping, its alarms and its metrics. -/
  controller : Controller κ ε := .initial
  /-- The reconciles that were started and have not begun yet. -/
  fresh : List (Run κ) := []
  /-- What happened to the keys, the newest event first. -/
  log : QueueLog κ ε := []

namespace Course

variable {κ ε : Type} [KeyOrder κ] {policy : QueuePolicy ε}

/-- A key is enqueued, and the wish is noted in the log. -/
def enqueue (s : Course κ ε) (k : κ) : Course κ ε :=
  { s with controller := s.controller.enqueue k, log := (k, .enqueued) :: s.log }

/-- The reconcile of a key ends with an outcome. The controller has yet to take that up. -/
def finish (s : Course κ ε) (k : κ) (outcome : Outcome ε) : Course κ ε :=
  { s with
    controller := s.controller.endRun s.now k outcome
    log := (k, .ended outcome) :: s.log }

/-- The controller does the next thing that lies before it, if there is one, and what happens to the
keys by that is added to the log. -/
def act (policy : QueuePolicy ε) (s : Course κ ε) : Course κ ε :=
  match s.controller.step? policy s.now with
  | none => s
  | some (d, runs) => { s with
      controller := d
      fresh := if d.stage = .collapsed then [] else s.fresh ++ runs
      log := (s.controller.doings policy s.now runs).reverse ++ s.log }

/-- What may happen next. All cases but the last one are up to the world around the controller. -/
inductive Step (policy : QueuePolicy ε) : Course κ ε → Course κ ε → Prop
  /-- A key is enqueued from outside, at any time. -/
  | enqueue (s : Course κ ε) (k : κ) : Step policy s (s.enqueue k)
  /-- A reconcile that was started begins, whichever of them it is. -/
  | begin (s : Course κ ε) {before after : List (Run κ)} {run : Run κ}
      (hrun : s.fresh = before ++ run :: after) :
      Step policy s { s with controller := s.controller.beginRun, fresh := before ++ after }
  /-- A reconcile in flight ends with some outcome. -/
  | finish (s : Course κ ε) {run : Run κ} (outcome : Outcome ε)
      (hrun : run ∈ s.controller.running) (hbegun : run ∉ s.fresh) :
      Step policy s (s.finish run.key outcome)
  /-- The controller is told to shut down, once or again. -/
  | signal (s : Course κ ε) : Step policy s { s with controller := s.controller.signal }
  /-- Time goes by, and nothing else happens. -/
  | wait (s : Course κ ε) {later : Instant} (h : s.now ≤ later) :
      Step policy s { s with now := later }
  /-- The controller does the next thing that lies before it. -/
  | act (s : Course κ ε) : Step policy s (s.act policy)

/-- The courses that come about from a new controller, at any time and by any steps. -/
inductive Reachable (policy : QueuePolicy ε) : Course κ ε → Prop
  /-- Nothing has happened to a controller that starts now. -/
  | start (now : Instant) : Reachable policy { now }
  /-- Something more happens, of what may happen next. -/
  | next {s t : Course κ ε} (h : Reachable policy s) (step : Step policy s t) : Reachable policy t

end Course

/-- One worker, a minute for a reconcile, and the standard delays, as small courses use them. -/
def QueuePolicy.oneWorker : QueuePolicy Unit where
  workers := 1
  timeout := Span.ofSeconds 60
  retryAfter := fun _ => Backoff.standard.delay

/-- The same with two workers, so that one of them is free while the other one is at work. -/
def QueuePolicy.twoWorkers : QueuePolicy Unit := { QueuePolicy.oneWorker with workers := 2 }

namespace Course

/-- Two keys are enqueued and the first one is started; then it is enqueued again. So the first one
is active and dirty, and the second one waits. -/
def busy : Course String Unit :=
  ((((enqueue { now := 0 } "a").enqueue "b").act .oneWorker).enqueue "a").act .oneWorker

/-- The busy course comes about from a new controller, step by step. -/
theorem reachable_busy : Reachable .oneWorker busy := by
  have hboth : Reachable .oneWorker ((enqueue { now := 0 } "a").enqueue "b") :=
    ((Reachable.start 0).next (.enqueue _ "a")).next (.enqueue _ "b")
  have hstarted := hboth.next (.act _)
  exact (hstarted.next (.enqueue _ "a")).next (.act _)

end Course

end WorkspaceAccess
