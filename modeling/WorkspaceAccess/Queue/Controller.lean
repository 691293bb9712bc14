import WorkspaceAccess.Backoff
import WorkspaceAccess.Queue.Alarms
import WorkspaceAccess.Queue.Bookkeeping
import WorkspaceAccess.Queue.Metrics
import WorkspaceAccess.Queue.Outcome

/-!
# Controllers

A controller drives the reconciles of the keys of a work queue. At most so many of them as there are
workers are in flight, and no two of one key. A key whose reconcile asks for it, or fails, is
retried after a delay. Once the controller is told to shut down it starts nothing any more and stops
when the last reconcile in flight is over. A retry that is too far ahead for the alarms makes it
collapse: whatever was in flight is given up.

From outside, keys are enqueued (`enqueue`), reconciles begin and end (`beginRun`, `endRun`) and the
shutdown is signalled (`signal`). What the controller does by itself is `step?`: it takes up the
first of the things that lie before it, in a fixed order of precedence, and starts reconciles. The
shutdown comes first, then the ends of reconciles, then the alarms, and the keys that were enqueued
come last. `settle` goes on until nothing lies before it.

What the reconciles do is no part of a controller: to it a run is a key with a start and an end, and
its outcome is whatever `endRun` is told. So the laws of the queue in `WorkspaceAccess.Proofs.Queue`
hold for every controller, and `WorkspaceAccess.Simulation.Crew` puts runs and controllers together.

## Main results

* `Controller.backlog_step?_lt`: every step makes what lies before the controller less, in a
  lexicographic order of five numbers. This is why settling ends.
* `Controller.step?_settle`: a controller that has settled has nothing left to do.
* `Controller.settle_of_none`, `Controller.settle_of_some`: settling is nothing but taking steps, so
  that what steps preserve is preserved by settling.
* `Controller.startUpTo_frame`, `dispatch_frame`, `retryLater_frame`, `complete_frame`,
  `heed_frame`, `tick_frame`: which parts of the state each operation leaves alone.
-/

namespace WorkspaceAccess

/-- How much a controller may do at a time, and how long. -/
structure QueueLimits where
  /-- The reconciles in flight; one if this is zero, so that there always is a worker. -/
  workers : Nat
  /-- The time for one reconcile. -/
  timeout : Span
  deriving DecidableEq

/-- Four workers, and a minute for a reconcile. -/
def QueueLimits.standard : QueueLimits := ⟨4, Span.ofSeconds 60⟩

/-- The limits of a controller, and when it retries. The errors are those of its reconciles. -/
structure QueuePolicy (ε : Type) extends QueueLimits where
  /-- The delay before a key is retried after an error, after so many failures in a row. -/
  retryAfter : ε → Nat → Span

/-- A reconcile in flight, as the controller knows it: no more than a key and two times. -/
structure Run (κ : Type) where
  /-- The key that is reconciled. -/
  key : κ
  /-- The time at which it was started. -/
  start : Instant
  /-- The time by which it should be over. -/
  deadline : Instant
  deriving DecidableEq

/-- Whether a controller starts reconciles. A controller never goes back to an earlier stage. -/
inductive Stage where
  /-- It takes keys from the inbox and starts reconciles. -/
  | serving
  /-- It only waits for those in flight. -/
  | draining
  /-- None is in flight or will be, but no shutdown was asked for. -/
  | collapsed
  /-- None is in flight, and none will be. -/
  | stopped
  deriving DecidableEq

/-- How far a controller is from being stopped, in steps from stage to stage. -/
def Stage.remaining : Stage → Nat
  | serving => 2
  | draining | collapsed => 1
  | stopped => 0

/-- The state of a controller. What happens outside is put into `inbox`, `ended` and `signalled` and
waits there to be taken up. -/
structure Controller (κ ε : Type) [KeyOrder κ] where
  /-- The keys that were enqueued and not yet taken up. -/
  inbox : List κ := []
  /-- The keys that are waiting, active or to be retried. -/
  book : Bookkeeping κ := {}
  /-- The reconciles in flight, in the order of their starts. -/
  running : List (Run κ) := []
  /-- The reconciles that ended and were not yet taken up, in the order of their ends. They still
  occupy their workers. -/
  ended : List (κ × Outcome ε) := []
  /-- The alarms for the retries. -/
  alarms : Alarms κ := {}
  /-- What was done so far. -/
  metrics : QueueMetrics := .zero
  /-- The controller was told to shut down, and this is never taken back. -/
  signalled : Bool := false
  /-- Whether reconciles are started, or not any more. -/
  stage : Stage := .serving

namespace Controller

variable {κ ε : Type} [KeyOrder κ]

/-- A controller that has done nothing yet. -/
def initial : Controller κ ε := {}

instance : Inhabited (Controller κ ε) := ⟨initial⟩

/-! ### What happens from outside -/

/-- A key is enqueued. It is taken up by a later step, however often it was enqueued. -/
def enqueue (c : Controller κ ε) (k : κ) : Controller κ ε := { c with inbox := c.inbox ++ [k] }

/-- Several keys are enqueued, in this order. -/
def enqueueAll (c : Controller κ ε) (keys : List κ) : Controller κ ε :=
  { c with inbox := c.inbox ++ keys }

/-- A reconcile that was started begins; this is when it is counted. -/
def beginRun (c : Controller κ ε) : Controller κ ε := { c with metrics := c.metrics.start }

/-- The reconcile of a key ends, with its duration and its outcome counted at once. What follows for
the key is decided when the end is taken up. -/
def endRun (c : Controller κ ε) (now : Instant) (k : κ) (outcome : Outcome ε) : Controller κ ε :=
  match c.running.find? fun r => KeyOrder.compare r.key k == .eq with
  | none => c
  | some run => { c with
      running := c.running.eraseP fun r => KeyOrder.compare r.key k == .eq
      ended := c.ended ++ [(k, outcome)]
      metrics := c.metrics.finish (now - run.start) outcome.isFailure }

/-- The controller is told to shut down. -/
def signal (c : Controller κ ε) : Controller κ ε := { c with signalled := true }

/-! ### What the controller does -/

/-- The reconciles that are in flight or have ended without being taken up: the workers that are not
free. -/
def inFlight (c : Controller κ ε) : Nat := c.running.length + c.ended.length

/-- Starts the reconcile of the waiting key that becomes active. -/
def start (c : Controller κ ε) (run : Run κ) (book : Bookkeeping κ) : Controller κ ε :=
  { c with book, running := c.running ++ [run] }

/-- Starts reconciles of waiting keys, at most so many, in the order in which the keys wait. -/
def startUpTo (policy : QueuePolicy ε) (now : Instant) :
    Nat → Controller κ ε → Controller κ ε × List (Run κ)
  | 0, c => (c, [])
  | n + 1, c =>
    match c.book.next? with
    | none => (c, [])
    | some (k, book) =>
      let run : Run κ := ⟨k, now, now + policy.timeout.toNanos⟩
      let (c, runs) := startUpTo policy now n (c.start run book)
      (c, run :: runs)

/-- Starts reconciles of waiting keys while there are workers. A policy without workers has one. -/
def dispatch (policy : QueuePolicy ε) (now : Instant) (c : Controller κ ε) :
    Controller κ ε × List (Run κ) :=
  startUpTo policy now (max policy.workers 1 - c.inFlight) c

/-- Records a retry after a delay, unless an earlier one is recorded. Only a retry that is recorded
sets an alarm and is counted. -/
def retryLater (c : Controller κ ε) (now : Instant) (k : κ) (delay : Span) : Controller κ ε :=
  let time := now + delay.toNanos
  match c.book.schedule? k time with
  | none => c
  | some book => { c with book, alarms := c.alarms.request k time, metrics := c.metrics.requeue }

/-- Counts a failure of a key and records its retry; the delay may grow with the failures in a
row. -/
def failed (c : Controller κ ε) (now : Instant) (k : κ) (delay : Nat → Span) : Controller κ ε :=
  let c := { c with book := c.book.fail k }
  c.retryLater now k (delay (c.book.failuresOf k))

/-- Draws the consequences of an outcome for the retries of a key. A success forgets the failures; a
reconcile that was cut short is retried by the standard backoff, since there is no error to ask. -/
def weigh (policy : QueuePolicy ε) (now : Instant) (k : κ) (c : Controller κ ε) :
    Outcome ε → Controller κ ε
  | .success .done => { c with book := c.book.settle k }
  | .success (.requeue delay) => { c with book := c.book.settle k }.retryLater now k delay
  | .failure error => c.failed now k (policy.retryAfter error)
  | .panic => c.failed now k Backoff.standard.delay

/-- Takes up the end of a reconcile: its retries are settled first, then the key waits once more or
is idle. -/
def complete (policy : QueuePolicy ε) (now : Instant) (c : Controller κ ε) (k : κ)
    (outcome : Outcome ε) : Controller κ ε :=
  let c := c.weigh policy now k outcome
  { c with book := c.book.finish k }

/-- The alarm of a key has rung. If the recorded retry is due the key waits; if it is later the
alarm is set anew; if none is recorded the alarm means nothing. -/
def heed (c : Controller κ ε) (now : Instant) (k : κ) : Controller κ ε :=
  match c.book.retries.get? k with
  | none => c
  | some time =>
    if time ≤ now then { c with book := c.book.retry k }
    else { c with alarms := c.alarms.request k time }

/-- Takes up everything that was enqueued. -/
def receive (c : Controller κ ε) : Controller κ ε :=
  { c with inbox := [], book := c.book.pushAll c.inbox }

/-- The wheel of the alarms has come to a stop, and an alarm may ring. -/
def tick (c : Controller κ ε) (now : Instant) : Controller κ ε :=
  match c.alarms.poll now with
  | (some k, alarms) => { c with alarms }.heed now k
  | (none, alarms) => { c with alarms }

/-- The next thing that lies before a serving controller is done: a reconcile that ended comes
first, then the alarms, then the keys that were enqueued. -/
def takeUp? (policy : QueuePolicy ε) (now : Instant) (c : Controller κ ε) :
    Option (Controller κ ε) :=
  match c.ended with
  | (k, outcome) :: rest => some ({ c with ended := rest }.complete policy now k outcome)
  | [] =>
    if c.alarms.isAwake now then some (c.tick now)
    else if c.inbox.isEmpty then none
    else some c.receive

/-- The retry of a key lies too far ahead for the alarms. This is noticed once all ends have been
taken up. -/
def isOverdrawn (c : Controller κ ε) : Bool := c.ended.isEmpty && c.alarms.overdrawn

/-- Gives up whatever is in flight. Nothing is started any more, though no shutdown was asked
for. -/
def collapse (c : Controller κ ε) : Controller κ ε := { c with running := [], stage := .collapsed }

/-- No reconcile is in flight, and none will be. -/
def isOver (c : Controller κ ε) : Bool := c.stage = .collapsed || c.stage = .stopped

/-- The next thing that a controller does, with the reconciles that it starts; none if nothing
lies before it. The shutdown comes before everything else. -/
def step? (policy : QueuePolicy ε) (now : Instant) (c : Controller κ ε) :
    Option (Controller κ ε × List (Run κ)) :=
  match c.stage with
  | .serving =>
    if c.signalled then some ({ c with stage := .draining }, [])
    else if c.isOverdrawn then some (c.collapse, [])
    else (c.takeUp? policy now).map (dispatch policy now)
  | .draining => if c.running.isEmpty then some ({ c with stage := .stopped }, []) else none
  | .collapsed => if c.signalled then some ({ c with stage := .stopped }, []) else none
  | .stopped => none

/-! ### What lies before a controller becomes less -/

/-- Starting reconciles changes nothing but the books and the reconciles in flight. -/
theorem startUpTo_frame (policy : QueuePolicy ε) (now : Instant) (n : Nat) (c : Controller κ ε) :
    let d := (startUpTo policy now n c).1
    d.inbox = c.inbox ∧ d.ended = c.ended ∧ d.alarms = c.alarms ∧ d.stage = c.stage ∧
      d.signalled = c.signalled := by
  induction n generalizing c with
  | zero => exact ⟨rfl, rfl, rfl, rfl, rfl⟩
  | succ n ih =>
    unfold startUpTo
    split
    · exact ⟨rfl, rfl, rfl, rfl, rfl⟩
    · exact ih _

/-- Dispatching, too, leaves alone what was enqueued, what has ended, the alarms and the stage. -/
theorem dispatch_frame (policy : QueuePolicy ε) (now : Instant) (c : Controller κ ε) :
    let d := (dispatch policy now c).1
    d.inbox = c.inbox ∧ d.ended = c.ended ∧ d.alarms = c.alarms ∧ d.stage = c.stage ∧
      d.signalled = c.signalled :=
  startUpTo_frame policy now _ c

/-- Recording a retry leaves alone what was enqueued, what has ended and what is in flight. -/
theorem retryLater_frame (c : Controller κ ε) (now : Instant) (k : κ) (delay : Span) :
    let d := c.retryLater now k delay
    d.inbox = c.inbox ∧ d.ended = c.ended ∧ d.stage = c.stage ∧ d.running = c.running := by
  unfold retryLater
  simp only
  split <;> exact ⟨rfl, rfl, rfl, rfl⟩

/-- Taking up one end leaves alone what was enqueued, what else has ended and what is in flight. -/
theorem complete_frame (policy : QueuePolicy ε) (now : Instant) (c : Controller κ ε) (k : κ)
    (outcome : Outcome ε) :
    let d := c.complete policy now k outcome
    d.inbox = c.inbox ∧ d.ended = c.ended ∧ d.stage = c.stage ∧ d.running = c.running := by
  unfold complete weigh
  split
  · exact ⟨rfl, rfl, rfl, rfl⟩
  all_goals exact retryLater_frame _ _ _ _

/-- Heeding an alarm starts and ends nothing; at most it makes a key wait. -/
theorem heed_frame (c : Controller κ ε) (now : Instant) (k : κ) :
    let d := c.heed now k
    d.inbox = c.inbox ∧ d.ended = c.ended ∧ d.stage = c.stage ∧ d.running = c.running := by
  unfold heed
  split
  · exact ⟨rfl, rfl, rfl, rfl⟩
  · split <;> exact ⟨rfl, rfl, rfl, rfl⟩

/-- Heeding an alarm that has rung does not make another one due: if it is set anew, then for
later. -/
theorem due_heed (c : Controller κ ε) (now : Instant) {k : κ}
    (h : c.alarms.pending.get? k = none) :
    (c.heed now k).alarms.due now = c.alarms.due now := by
  unfold heed
  split
  · rfl
  · split
    · rfl
    · exact Alarms.due_request_of_lt h (Nat.lt_of_not_le ‹_›)

/-- A stop of the wheel starts and ends nothing. -/
theorem tick_frame (c : Controller κ ε) (now : Instant) :
    let d := c.tick now
    d.inbox = c.inbox ∧ d.ended = c.ended ∧ d.stage = c.stage ∧ d.running = c.running := by
  unfold tick
  split
  · exact heed_frame _ now _
  · exact ⟨rfl, rfl, rfl, rfl⟩

/-- What lies before a controller: its stage, the ends that were not taken up, the alarms that
are due, whether the wheel of the alarms has come to a stop, and the keys that were enqueued. -/
def backlog (now : Instant) (c : Controller κ ε) : Nat × Nat × Nat × Nat × Nat :=
  (c.stage.remaining, c.ended.length, (c.alarms.due now).size,
    (c.alarms.isAwake now).toNat, c.inbox.length)

/-- One backlog is less than another: the first parts that differ decide. -/
abbrev BacklogLt : Nat × Nat × Nat × Nat × Nat → Nat × Nat × Nat × Nat × Nat → Prop :=
  Prod.Lex (· < ·) (Prod.Lex (· < ·) (Prod.Lex (· < ·) (Prod.Lex (· < ·) (· < ·))))

/-- A stop of the wheel makes the backlog less: either an alarm has rung and fewer are due, or the
wheel has its next stop ahead. -/
theorem backlog_tick_lt {c : Controller κ ε} {now : Instant} (h : c.alarms.isAwake now) :
    BacklogLt ((c.tick now).backlog now) (c.backlog now) := by
  obtain ⟨h1, h2, h3, -⟩ := tick_frame c now
  simp only [backlog, h1, h2, h3]
  refine .right _ (.right _ ?_)
  unfold tick
  split
  · rename_i k alarms hp
    obtain ⟨hb, -⟩ := Alarms.poll_eq_some hp
    rw [due_heed { c with alarms } now (by simp [hb])]
    exact .left _ _ (Alarms.due_poll_lt hp)
  · rename_i alarms hp
    obtain ⟨hd, hw⟩ := Alarms.isAwake_poll hp
    simp only [hd, hw, h]
    exact .right _ (.left _ _ Nat.one_pos)

/-- Taking up one thing makes the backlog less, whichever it is: nothing that comes earlier in the
order of precedence is added by it. -/
theorem backlog_takeUp?_lt {policy : QueuePolicy ε} {now : Instant} {c d : Controller κ ε}
    (h : c.takeUp? policy now = some d) : BacklogLt (d.backlog now) (c.backlog now) := by
  unfold takeUp? at h
  split at h
  · rename_i k outcome rest he
    cases h
    obtain ⟨-, h2, h3, -⟩ := complete_frame policy now { c with ended := rest } k outcome
    simp only [backlog, h2, h3, he, List.length_cons]
    exact .right _ (.left _ _ (Nat.lt_succ_self _))
  · split at h
    · cases h
      exact backlog_tick_lt ‹_›
    · split at h
      · cases h
      · rename_i hi
        cases h
        simp only [backlog, receive]
        refine .right _ (.right _ (.right _ (.right _ ?_)))
        simpa [List.length_pos_iff, List.isEmpty_iff] using hi

/-- Every step makes the backlog less, those that only change the stage included. -/
theorem backlog_step?_lt {policy : QueuePolicy ε} {now : Instant} {c d : Controller κ ε}
    {runs : List (Run κ)} (h : c.step? policy now = some (d, runs)) :
    BacklogLt (d.backlog now) (c.backlog now) := by
  unfold step? at h
  split at h
  · rename_i hs
    split at h
    · cases h
      exact .left _ _ (by simp [hs, Stage.remaining])
    split at h
    · cases h
      exact .left _ _ (by simp [hs, collapse, Stage.remaining])
    · obtain ⟨e, he, hd⟩ := Option.map_eq_some_iff.1 h
      have hf := dispatch_frame policy now e
      simp only [hd] at hf
      obtain ⟨h1, h2, h3, h4, -⟩ := hf
      have := backlog_takeUp?_lt he
      simpa only [backlog, h1, h2, h3, h4] using this
  · rename_i hs
    split at h
    · cases h
      exact .left _ _ (by simp [hs, Stage.remaining])
    · cases h
  · rename_i hs
    split at h
    · cases h
      exact .left _ _ (by simp [hs, Stage.remaining])
    · cases h
  · cases h

/-- Does everything that lies before the controller: the state afterwards, and the reconciles
that were started, in order. A collapse gives up the ones that did not begin yet. -/
def settle (policy : QueuePolicy ε) (now : Instant) (c : Controller κ ε) :
    Controller κ ε × List (Run κ) :=
  match h : c.step? policy now with
  | none => (c, [])
  | some (d, runs) =>
    have := backlog_step?_lt h
    let (e, more) := d.settle policy now
    (e, if e.stage = .collapsed then [] else runs ++ more)
termination_by c.backlog now
decreasing_by exact this

/-- A controller that has settled has nothing left to do. -/
theorem step?_settle (policy : QueuePolicy ε) (now : Instant) (c : Controller κ ε) :
    (c.settle policy now).1.step? policy now = none := by
  fun_induction settle policy now c with
  | case1 c h => exact h
  | case2 c d runs h this e more he ih => simpa [he] using ih

/-- A controller that has nothing left to do has settled. -/
theorem settle_of_none {policy : QueuePolicy ε} {now : Instant} {c : Controller κ ε}
    (h : c.step? policy now = none) : c.settle policy now = (c, []) := by
  unfold settle
  split
  · rfl
  · rename_i hstep
    rw [h] at hstep
    cases hstep

/-- A controller that has something to do settles after it. -/
theorem settle_of_some {policy : QueuePolicy ε} {now : Instant} {c d : Controller κ ε}
    {runs : List (Run κ)} (h : c.step? policy now = some (d, runs)) :
    c.settle policy now = ((d.settle policy now).1,
      if (d.settle policy now).1.stage = .collapsed then []
      else runs ++ (d.settle policy now).2) := by
  rw [settle]
  split
  · rename_i hstep
    rw [h] at hstep
    cases hstep
  · rename_i hstep
    rw [h] at hstep
    cases hstep
    rfl

/-- The next time at which something lies before the controller, if nothing happens from
outside. -/
def nextTime? (policy : QueuePolicy ε) (now : Instant) (c : Controller κ ε) : Option Instant :=
  if (c.step? policy now).isSome then some now
  else if c.stage = .serving then c.alarms.nextTime? else none

end Controller

end WorkspaceAccess
