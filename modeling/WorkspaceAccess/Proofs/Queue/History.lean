import Mathlib.Logic.Relation
import WorkspaceAccess.Proofs.Queue.Course

/-!
# The History of a Controller

A course of a controller is told in steps, and a step of a controller may do much at once: it
empties the inbox, or takes up an end or an alarm, and then starts as many reconciles as there are
workers. `History` tells the same course one event at a time: a step that empties the inbox and
starts reconciles is one event for every key. An invariant is then proved by one short case for each
event, instead of by following the loops of a step.

The order of precedence in which a controller takes things up is not part of a history, so that what
is proved along a history holds for every order. What does depend on the order, such as how soon a
key is started, is proved from the steps (`Course.act_cases`).

A controller that does something either ceases to serve, or it *serves*: it takes up the one thing
that comes first and then starts reconciles (`Course.Serves`). Every statement about a single step
of a controller begins with these two cases.

## Main results

* `History.earlier`: every earlier log is the log of an earlier controller, so that an invariant
  holds at each point of the past as well.
* `History.receiveAll`, `History.tick`, `History.takeUp`, `History.startUpTo`, `History.step`: the
  steps of a controller, told one event at a time.
* `Course.Reachable.history`: every reachable course has a history, by induction on its steps.
* `running_of_takeUp?`, `running_startUpTo`: what is taken up starts nothing, and what is started
  runs after the others.
* `of_settled`: what is known of a serving controller before which nothing lies.
* `Leads.log`: what has happened stays in the log.
* `act_cases`: a controller does nothing, it ceases to serve, or it serves.
-/

namespace WorkspaceAccess

variable {κ ε : Type} [KeyOrder κ] {policy : QueuePolicy ε}

open Controller in
/-- A controller that came to its state by the events of a log. -/
inductive History (policy : QueuePolicy ε) : Controller κ ε → QueueLog κ ε → Prop
  /-- Nothing has happened, and the log is empty. -/
  | initial : History policy .initial []
  /-- A key is enqueued, which is logged for it. -/
  | enqueue {c : Controller κ ε} {log : QueueLog κ ε} (k : κ) (h : History policy c log) :
      History policy (c.enqueue k) ((k, .enqueued) :: log)
  /-- A reconcile begins, which is not logged: it was when it was started. -/
  | begin {c : Controller κ ε} {log : QueueLog κ ε} (h : History policy c log) :
      History policy c.beginRun log
  /-- A reconcile in flight ends, which is logged with its outcome. -/
  | finish {c : Controller κ ε} {log : QueueLog κ ε} {run : Run κ} (now : Instant)
      (outcome : Outcome ε) (hrun : run ∈ c.running) (h : History policy c log) :
      History policy (c.endRun now run.key outcome) ((run.key, .ended outcome) :: log)
  /-- The controller is told to shut down, which is not logged. -/
  | signal {c : Controller κ ε} {log : QueueLog κ ε} (h : History policy c log) :
      History policy c.signal log
  /-- The end of a reconcile is taken up. -/
  | complete {c : Controller κ ε} {log : QueueLog κ ε} {k : κ} {outcome : Outcome ε}
      {rest : List (κ × Outcome ε)} (now : Instant) (hstage : c.stage = .serving)
      (hended : c.ended = (k, outcome) :: rest) (h : History policy c log) :
      History policy ({ c with ended := rest }.complete policy now k outcome)
        ((k, .completed outcome ({ c with ended := rest }.scheduled? policy now k outcome)) :: log)
  /-- No alarm rings when the wheel comes to a stop. -/
  | roll {c : Controller κ ε} {log : QueueLog κ ε} {now : Instant} {alarms : Alarms κ}
      (hstage : c.stage = .serving) (hpoll : c.alarms.poll now = (none, alarms))
      (h : History policy c log) : History policy { c with alarms } log
  /-- The alarm of a key rings and its retry is due. -/
  | retry {c : Controller κ ε} {log : QueueLog κ ε} {now time : Instant} {alarms : Alarms κ}
      {k : κ} (hstage : c.stage = .serving) (hpoll : c.alarms.poll now = (some k, alarms))
      (hdue : c.book.retries.get? k = some time) (htime : time ≤ now)
      (h : History policy c log) :
      History policy { c with alarms, book := c.book.retry k } ((k, .retried time) :: log)
  /-- The alarm of a key rings too early for its retry. -/
  | postpone {c : Controller κ ε} {log : QueueLog κ ε} {now time : Instant} {alarms : Alarms κ}
      {k : κ} (hstage : c.stage = .serving) (hpoll : c.alarms.poll now = (some k, alarms))
      (hlater : c.book.retries.get? k = some time) (htime : now < time)
      (h : History policy c log) :
      History policy { c with alarms := alarms.request k time } log
  /-- The alarm of a key rings that has no retry any more. -/
  | ignore {c : Controller κ ε} {log : QueueLog κ ε} {now : Instant} {alarms : Alarms κ} {k : κ}
      (hstage : c.stage = .serving) (hpoll : c.alarms.poll now = (some k, alarms))
      (hnone : c.book.retries.get? k = none) (h : History policy c log) :
      History policy { c with alarms } log
  /-- A key is taken from the inbox and pushed to those that wait. -/
  | receive {c : Controller κ ε} {log : QueueLog κ ε} {k : κ} {rest : List κ}
      (hstage : c.stage = .serving) (hinbox : c.inbox = k :: rest) (h : History policy c log) :
      History policy { c with inbox := rest, book := c.book.push k } ((k, .received) :: log)
  /-- A reconcile of the first waiting key is started. -/
  | start {c : Controller κ ε} {log : QueueLog κ ε} {k : κ} {book : Bookkeeping κ}
      (now : Instant) (hstage : c.stage = .serving) (hnext : c.book.next? = some (k, book))
      (hroom : c.inFlight < max policy.workers 1) (h : History policy c log) :
      History policy (c.start ⟨k, now, now + policy.timeout.toNanos⟩ book) ((k, .started) :: log)
  /-- The shutdown is observed, and no reconcile is started from now on. -/
  | drain {c : Controller κ ε} {log : QueueLog κ ε} (hstage : c.stage = .serving)
      (h : History policy c log) : History policy { c with stage := .draining } log
  /-- A retry lies too far ahead, and the controller gives up all that runs. -/
  | collapse {c : Controller κ ε} {log : QueueLog κ ε} (hstage : c.stage = .serving)
      (hover : c.isOverdrawn = true) (h : History policy c log) : History policy c.collapse log
  /-- Nothing is in flight any more, or all was given up, and the controller stops. -/
  | stop {c : Controller κ ε} {log : QueueLog κ ε}
      (hstage : c.stage = .draining ∧ c.running = [] ∨ c.stage = .collapsed)
      (h : History policy c log) : History policy { c with stage := .stopped } log

namespace History

variable {c d : Controller κ ε} {log : QueueLog κ ε}

/-- Every earlier log is the log of an earlier controller. -/
theorem earlier {old : QueueLog κ ε} (h : History policy c log) (hold : old <:+ log) :
    ∃ b : Controller κ ε, History policy b old := by
  induction h with
  | initial =>
    obtain rfl := List.suffix_nil.mp hold
    exact ⟨_, .initial⟩
  | begin _ ih | signal _ ih | roll _ _ _ ih | postpone _ _ _ _ _ ih | ignore _ _ _ _ ih
  | drain _ _ ih | collapse _ _ _ ih | stop _ _ ih => exact ih hold
  | enqueue k h ih =>
    rcases List.suffix_cons_iff.mp hold with rfl | hold
    · exact ⟨_, .enqueue k h⟩
    · exact ih hold
  | finish now outcome hrun h ih =>
    rcases List.suffix_cons_iff.mp hold with rfl | hold
    · exact ⟨_, .finish now outcome hrun h⟩
    · exact ih hold
  | complete now hstage hended h ih =>
    rcases List.suffix_cons_iff.mp hold with rfl | hold
    · exact ⟨_, .complete now hstage hended h⟩
    · exact ih hold
  | retry hstage hpoll hdue htime h ih =>
    rcases List.suffix_cons_iff.mp hold with rfl | hold
    · exact ⟨_, .retry hstage hpoll hdue htime h⟩
    · exact ih hold
  | receive hstage hinbox h ih =>
    rcases List.suffix_cons_iff.mp hold with rfl | hold
    · exact ⟨_, .receive hstage hinbox h⟩
    · exact ih hold
  | start now hstage hnext hroom h ih =>
    rcases List.suffix_cons_iff.mp hold with rfl | hold
    · exact ⟨_, .start now hstage hnext hroom h⟩
    · exact ih hold

/-! ### Steps of the controller as histories -/

/-- Taking up everything that was enqueued takes up one key after the other. -/
theorem receiveAll (h : History policy c log) (hstage : c.stage = .serving) :
    History policy c.receive
      ((c.inbox.map fun k => (k, QueueEvent.received)).reverse ++ log) := by
  obtain ⟨inbox, hinbox⟩ : ∃ l, c.inbox = l := ⟨_, rfl⟩
  induction inbox generalizing c log with
  | nil =>
    have hreceive : c.receive = c := by
      obtain ⟨_, _⟩ := c
      subst hinbox
      rfl
    rw [hreceive, hinbox]
    exact h
  | cons k rest ih =>
    have hfirst := h.receive hstage hinbox
    have hrest := ih hfirst hstage rfl
    simpa [Controller.receive, hinbox, Bookkeeping.pushAll] using hrest

/-- An alarm rings, or none does, and what follows from it is a history again. -/
theorem tick (now : Instant) (h : History policy c log) (hstage : c.stage = .serving) :
    History policy (c.tick now) ((c.rung now).reverse ++ log) := by
  obtain ⟨rings, alarms, hpoll⟩ : ∃ rings alarms, c.alarms.poll now = (rings, alarms) :=
    ⟨_, _, rfl⟩
  rw [Controller.tick, Controller.rung, hpoll]
  cases rings with
  | none => exact h.roll hstage hpoll
  | some k =>
    cases hretry : c.book.retries.get? k with
    | none =>
      simpa [Controller.heed, Controller.dueTime?, hretry] using h.ignore hstage hpoll hretry
    | some time =>
      by_cases htime : time ≤ now
      · simpa [Controller.heed, Controller.dueTime?, hretry, htime, Option.filter]
          using h.retry hstage hpoll hretry htime
      · simpa [Controller.heed, Controller.dueTime?, hretry, htime, Option.filter]
          using h.postpone hstage hpoll hretry (Nat.lt_of_not_le htime)

/-- What is taken up does not end the service: only a shutdown or a collapse does. -/
theorem stage_takeUp? {now : Instant} (hd : c.takeUp? policy now = some d) :
    d.stage = c.stage := by
  rw [Controller.takeUp?] at hd
  split at hd
  · rename_i k outcome rest _
    cases hd
    obtain ⟨-, -, hstage, -⟩ :=
      Controller.complete_frame policy now { c with ended := rest } k outcome
    exact hstage
  · split at hd
    · cases hd
      obtain ⟨-, -, hstage, -⟩ := Controller.tick_frame c now
      exact hstage
    · split at hd
      · cases hd
      · cases hd
        rfl

/-- Whatever a serving controller takes up is told by its events. -/
theorem takeUp {now : Instant} (h : History policy c log) (hstage : c.stage = .serving)
    (hd : c.takeUp? policy now = some d) :
    History policy d ((c.takenUp policy now).reverse ++ log) := by
  rw [Controller.takeUp?] at hd
  rw [Controller.takenUp]
  cases hended : c.ended with
  | cons first rest =>
    rw [hended] at hd
    cases hd
    simpa using h.complete now hstage hended
  | nil =>
    rw [hended] at hd
    by_cases hawake : c.alarms.isAwake now = true
    · simp only [if_pos hawake] at hd ⊢
      cases hd
      exact h.tick now hstage
    · simp only [if_neg hawake] at hd ⊢
      split at hd
      · cases hd
      · cases hd
        exact h.receiveAll hstage

/-- Reconciles are started one after the other, while there is room. -/
theorem startUpTo (now : Instant) {n : Nat} (h : History policy c log)
    (hstage : c.stage = .serving) (hroom : n ≤ max policy.workers 1 - c.inFlight) :
    History policy (c.startUpTo policy now n).1
      (((c.startUpTo policy now n).2.map fun run => (run.key, QueueEvent.started)).reverse
        ++ log) := by
  induction n generalizing c log with
  | zero => exact h
  | succ n ih =>
    rw [Controller.startUpTo]
    split
    · exact h
    · rename_i k book hnext
      have hfirst := h.start now hstage hnext (by omega)
      have hfull : n ≤ max policy.workers 1 -
          (c.start ⟨k, now, now + policy.timeout.toNanos⟩ book).inFlight := by
        simp only [Controller.inFlight, Controller.start, List.length_append,
          List.length_singleton] at hroom ⊢
        omega
      simpa using ih hfirst hstage hfull

/-- A step of the controller is told by its events. -/
theorem step {now : Instant} {runs : List (Run κ)} (h : History policy c log)
    (hd : c.step? policy now = some (d, runs)) :
    History policy d ((c.doings policy now runs).reverse ++ log) := by
  rw [Controller.step?] at hd
  rw [Controller.doings]
  cases hstage : c.stage with
  | serving =>
    simp only [hstage] at hd
    split at hd
    · rename_i hsignalled
      cases hd
      simpa [hsignalled] using h.drain hstage
    split at hd
    · rename_i hover
      cases hd
      simpa [hover] using h.collapse hstage hover
    · rename_i hsignalled hover
      obtain ⟨e, htake, hdispatch⟩ := Option.map_eq_some_iff.mp hd
      have htaken := h.takeUp hstage htake
      have hserving : e.stage = .serving := (stage_takeUp? htake).trans hstage
      have hstarted := htaken.startUpTo now hserving (Nat.le_refl _)
      rw [Controller.dispatch] at hdispatch
      rw [hdispatch] at hstarted
      simpa [hsignalled, hover] using hstarted
  | draining =>
    simp only [hstage] at hd
    split at hd
    · rename_i hrunning
      cases hd
      exact h.stop (.inl ⟨hstage, List.isEmpty_iff.mp hrunning⟩)
    · cases hd
  | collapsed =>
    simp only [hstage] at hd
    split at hd
    · cases hd
      exact h.stop (.inr hstage)
    · cases hd
  | stopped => simp [hstage] at hd

end History

/-- Every reachable course has a history, by induction on its steps. -/
theorem Course.Reachable.history {s : Course κ ε} (h : Course.Reachable policy s) :
    History policy s.controller s.log := by
  induction h with
  | start now => exact .initial
  | next _ step ih =>
    cases step with
    | enqueue k => exact ih.enqueue k
    | begin hrun => exact ih.begin
    | finish outcome hrun hbegun => exact ih.finish _ outcome hrun
    | signal => exact ih.signal
    | wait hlater => exact ih
    | act =>
      rw [Course.act]
      split
      · exact ih
      · rename_i hstep
        exact ih.step hstep

/-! ### What a controller does by itself -/

/-- The event is one of a controller that takes something up. -/
def QueueEvent.isTakenUp : QueueEvent ε → Bool
  | .received | .retried _ | .completed .. => true
  | .enqueued | .started | .ended _ => false

/-- Nothing that is taken up is a start, so the two kinds of events are told apart. -/
theorem QueueEvent.isStarted_of_isTakenUp {e : QueueEvent ε} (h : e.isTakenUp = true) :
    e.isStarted = false := by
  cases e with
  | received | retried | completed => rfl
  | enqueued | started | ended => cases h

namespace Controller

variable {c d : Controller κ ε} {now : Instant}

/-- A serving controller only tells of what it takes up. -/
theorem isTakenUp_of_mem {e : κ × QueueEvent ε} (h : e ∈ c.takenUp policy now) :
    e.2.isTakenUp = true := by
  rw [takenUp] at h
  split at h
  · rw [List.mem_singleton.mp h]
    rfl
  split at h
  · rw [rung] at h
    split at h
    · obtain ⟨time, -, rfl⟩ := List.mem_map.mp h
      rfl
    · cases h
  · obtain ⟨k, -, rfl⟩ := List.mem_map.mp h
    rfl

/-- Nothing that is taken up starts a reconcile by itself; what is started is started afterwards. -/
theorem running_of_takeUp? (h : c.takeUp? policy now = some d) : d.running = c.running := by
  rw [takeUp?] at h
  split at h
  · rename_i k outcome rest _
    cases h
    obtain ⟨-, -, -, hrunning⟩ := complete_frame policy now { c with ended := rest } k outcome
    exact hrunning
  split at h
  · cases h
    obtain ⟨-, -, -, hrunning⟩ := tick_frame c now
    exact hrunning
  split at h
  · cases h
  · cases h
    rfl

/-- The reconciles that are started run after the others. -/
theorem running_startUpTo (policy : QueuePolicy ε) (now : Instant) (n : Nat)
    (c : Controller κ ε) :
    (c.startUpTo policy now n).1.running = c.running ++ (c.startUpTo policy now n).2 := by
  induction n generalizing c with
  | zero => exact (List.append_nil _).symm
  | succ n ih =>
    rw [startUpTo]
    split
    · exact (List.append_nil _).symm
    · simp only
      rw [ih, start, List.append_assoc]
      rfl

/-- A serving controller takes up what it may, and then starts reconciles. -/
theorem step?_of_takeUp? (hstage : c.stage = .serving) (hgoes : c.signalled = false)
    (hover : c.isOverdrawn = false) (htake : c.takeUp? policy now = some d) :
    c.step? policy now = some (d.dispatch policy now) := by
  simp [step?, hstage, hgoes, hover, htake]

/-- A serving controller before which nothing lies has taken up all ends, and no alarm is due. -/
theorem of_settled (hstage : c.stage = .serving) (h : c.step? policy now = none) :
    c.signalled = false ∧ c.ended = [] ∧ c.alarms.isAwake now = false := by
  simp only [step?, hstage] at h
  split at h
  · cases h
  rename_i hsignalled
  split at h
  · cases h
  rw [Option.map_eq_none_iff, takeUp?] at h
  split at h
  · cases h
  rename_i hended
  split at h
  · cases h
  · rename_i hasleep
    exact ⟨Bool.eq_false_iff.mpr hsignalled, hended, Bool.eq_false_iff.mpr hasleep⟩

end Controller

namespace Course

variable {s t : Course κ ε}

/-- A course comes later than another one, by any number of steps of any kind. -/
abbrev Leads (policy : QueuePolicy ε) : Course κ ε → Course κ ε → Prop :=
  Relation.ReflTransGen (Step policy)

/-- What comes later than a course that comes about from a new controller comes about from it as
well. -/
theorem Reachable.leads (h : Reachable policy s) (hlater : Leads policy s t) :
    Reachable policy t := by
  induction hlater with
  | refl => exact h
  | tail _ hstep ih => exact ih.next hstep

/-- What has happened stays in the log: later events stand before it and nothing is taken away. -/
theorem Leads.log (h : Leads policy s t) : ∃ later, t.log = later ++ s.log := by
  induction h with
  | refl => exact ⟨[], rfl⟩
  | @tail t _ _ hstep ih =>
    obtain ⟨later, hlater⟩ := ih
    cases hstep with
    | enqueue k => exact ⟨(k, .enqueued) :: later, congrArg _ hlater⟩
    | @finish run outcome _ _ => exact ⟨(run.key, .ended outcome) :: later, congrArg _ hlater⟩
    | begin _ | signal | wait _ => exact ⟨later, hlater⟩
    | act =>
      rw [act]
      split
      · exact ⟨later, hlater⟩
      · rename_i runs _
        refine ⟨(t.controller.doings policy t.now runs).reverse ++ later, ?_⟩
        rw [List.append_assoc, ← hlater]

/-- No time goes by while a controller does something. -/
theorem now_act (policy : QueuePolicy ε) (s : Course κ ε) : (s.act policy).now = s.now := by
  rw [act]
  split <;> rfl

/-- A serving controller takes something up, which leads to another state, and then starts
reconciles. -/
structure Serves (policy : QueuePolicy ε) (s : Course κ ε) (d : Controller κ ε) : Prop where
  /-- It serves before it acts. -/
  stage : s.controller.stage = .serving
  /-- It was not told to shut down before. -/
  goes : s.controller.signalled = false
  /-- It takes up what there is to be taken up, as far as it may. -/
  takeUp : s.controller.takeUp? policy s.now = some d
  /-- It starts as many reconciles as there are free workers and waiting keys. -/
  controller : (s.act policy).controller = (d.dispatch policy s.now).1
  /-- What is taken up and what is started are in the log, the latest first. -/
  log : (s.act policy).log = ((d.dispatch policy s.now).2.map fun run =>
    (run.key, QueueEvent.started)).reverse ++ (s.controller.takenUp policy s.now).reverse ++ s.log

/-- A controller that takes something up serves, if it was neither told to shut down nor
overdrawn. -/
theorem serves_of_takeUp? {d : Controller κ ε} (hstage : s.controller.stage = .serving)
    (hgoes : s.controller.signalled = false) (hover : s.controller.isOverdrawn = false)
    (htake : s.controller.takeUp? policy s.now = some d) : s.Serves policy d := by
  have hstep := Controller.step?_of_takeUp? hstage hgoes hover htake
  have hdoings : ∀ runs, s.controller.doings policy s.now runs =
      s.controller.takenUp policy s.now ++ runs.map fun run => (run.key, .started) :=
    fun _ => if_pos ⟨hstage, hgoes, hover⟩
  refine ⟨hstage, hgoes, htake, ?_, ?_⟩
  · rw [act, hstep]
  · rw [act, hstep]
    simp [hdoings]

/-- A controller does nothing, it ceases to serve, or it serves. Every statement about what a
controller does by itself begins with these cases. -/
theorem act_cases (policy : QueuePolicy ε) (s : Course κ ε) :
    s.act policy = s ∨ (s.act policy).controller.stage ≠ .serving ∨ ∃ d, s.Serves policy d := by
  rw [act]
  split
  · exact .inl rfl
  · rename_i d runs hstep
    refine .inr ?_
    rw [Controller.step?] at hstep
    split at hstep
    · rename_i hstage
      split at hstep
      · cases hstep
        exact .inl nofun
      split at hstep
      · cases hstep
        exact .inl nofun
      · rename_i hsignalled hover
        obtain ⟨e, htake, -⟩ := Option.map_eq_some_iff.mp hstep
        exact .inr ⟨e, serves_of_takeUp? hstage (Bool.eq_false_iff.mpr hsignalled)
          (Bool.eq_false_iff.mpr hover) htake⟩
    · split at hstep
      · cases hstep
        exact .inl nofun
      · cases hstep
    · split at hstep
      · cases hstep
        exact .inl nofun
      · cases hstep
    · cases hstep

end Course

end WorkspaceAccess
