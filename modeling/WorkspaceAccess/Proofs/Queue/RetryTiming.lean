import WorkspaceAccess.Proofs.Queue.Dispatch
import WorkspaceAccess.Proofs.Queue.FailureCount
import WorkspaceAccess.Proofs.Queue.Prompt

/-!
# When a Key Is Retried

What is recorded for a key after its reconcile depends on the outcome, on the failures in a row that
this outcome ends, and on the retry that was recorded before (`Course.Completes`). A success that
leaves nothing to do forgets the retry; one that asks to be called again records the time that it
asks for, whatever was recorded; a failure records the delay after so many failures in a row, or
leaves the retry that was recorded if that is earlier.

What becomes of the recorded retry of an idle key in a prompt course is decided by the key's inbox
alone: unless the key is received before, its retry is taken up in the very millisecond for which it
is recorded, and its reconcile is started in the same step if a worker is free. This is proved by
following the course step by step. As long as neither happens, the key stays idle and its retry
recorded (`Prompt.idle_or_rings`), and no retry is overdue in a prompt course, so that one of the
two has happened by the time the retry is due.

## The time of a start

Alarms know whole milliseconds. So a retry is taken up at `Alarms.ringTime` of the time that is
recorded, which is that time if it is a whole millisecond and less than a millisecond later
otherwise. And a controller that was told to shut down starts nothing any more, even if a worker is
free while it waits for another one. These are the two reasons for which an idle key may miss the
time of its retry (`retries_may_miss_their_time`); that it still serves is therefore a condition in
what is proved.

## Main results

* `Controller.memory_startUpTo`: starting reconciles leaves the failures and the retries alone.
* `Controller.dispatch_single`: the only waiting key is started when a worker is free.
* `completes`: what is kept and recorded after the end of a reconcile is taken up.
* `Serves.rings_or_spares`: what a controller takes up is the retry of an idle key, or it is not
  about that key, unless the key is received.
* `Rings.free`, `Rings.soon`: when the retry is taken up a free worker starts the reconcile at once,
  and otherwise it is started before a worker is idle.
* `Prompt.idle_or_rings`: an idle key that is not received stays idle or its retry is taken up.
* `retries_follow_the_failures`: all together, for every reachable course and every key.
* `ailing_is_retried_on_time`: the first failure of a key is retried after five seconds.
* `misses_hurried`, `misses_parted`: a retry after a nanosecond misses its time, and so does one
  during a shutdown.
* `retries_may_miss_their_time`: both of them, and when the first one is taken up instead.
-/

namespace WorkspaceAccess

variable {κ ε : Type} [KeyOrder κ] {policy : QueuePolicy ε}

/-! ### What a dispatch leaves alone -/

namespace Controller

variable {c : Controller κ ε} {now : Instant} {k : κ}

/-- Starting reconciles leaves the failures and the retries alone. -/
theorem memory_startUpTo (policy : QueuePolicy ε) (now : Instant) (n : Nat) (c : Controller κ ε) :
    (startUpTo policy now n c).1.book.failures = c.book.failures ∧
      (startUpTo policy now n c).1.book.retries = c.book.retries := by
  induction n generalizing c with
  | zero => exact ⟨rfl, rfl⟩
  | succ n ih =>
    rw [startUpTo]
    split
    · exact ⟨rfl, rfl⟩
    · rename_i j book hnext
      obtain ⟨hfailures, hretries⟩ := ih (c.start ⟨j, now, now + policy.timeout.toNanos⟩ book)
      exact ⟨hfailures.trans (Bookkeeping.failures_next hnext),
        hretries.trans (Bookkeeping.retries_next hnext)⟩

/-- A dispatch leaves the failures and the retries alone, since it only starts reconciles. -/
theorem memory_dispatch (policy : QueuePolicy ε) (now : Instant) (c : Controller κ ε) :
    (dispatch policy now c).1.book.failures = c.book.failures ∧
      (dispatch policy now c).1.book.retries = c.book.retries :=
  memory_startUpTo policy now _ c

/-- Only waiting keys are started, however many starts there are. By induction on their number. -/
theorem mem_ready_of_startUpTo {run : Run κ} {n : Nat}
    (hrun : run ∈ (startUpTo policy now n c).2) : run.key ∈ c.book.ready := by
  induction n generalizing c with
  | zero => cases hrun
  | succ n ih =>
    rw [startUpTo] at hrun
    split at hrun
    · cases hrun
    · rename_i j book hnext
      obtain ⟨rest, hready, rfl⟩ := Bookkeeping.next?_eq_some hnext
      rw [hready]
      rcases List.mem_cons.mp hrun with rfl | hrun
      · exact List.mem_cons_self
      · exact List.mem_cons_of_mem _ (ih hrun)

/-- The only waiting key is started when a worker is free. -/
theorem dispatch_single (now : Instant) (hready : c.book.ready = [k])
    (hroom : c.inFlight < max policy.workers 1) :
    (dispatch policy now c).2 = [⟨k, now, now + policy.timeout.toNanos⟩] ∧
      (dispatch policy now c).1.running =
        c.running ++ [⟨k, now, now + policy.timeout.toNanos⟩] := by
  have hempty : ∀ (n : Nat) (d : Controller κ ε), d.book.ready = [] →
      (startUpTo policy now n d).2 = [] := by
    intro n d hnone
    refine List.eq_nil_iff_forall_not_mem.mpr fun run hrun => ?_
    have hmem := mem_ready_of_startUpTo hrun
    rw [hnone] at hmem
    cases hmem
  obtain ⟨n, hn⟩ := Nat.exists_eq_add_of_lt hroom
  have hfree : max policy.workers 1 - c.inFlight = n + 1 := by omega
  have hnext : c.book.next? = some (k, { c.book with
      ready := [], queued := c.book.queued.erase k, active := c.book.active.add k }) := by
    rw [Bookkeeping.next?, hready]
  have hruns : (startUpTo policy now (n + 1) c).2 =
      [⟨k, now, now + policy.timeout.toNanos⟩] := by
    rw [startUpTo, hnext]
    exact congrArg _ (hempty n _ rfl)
  rw [dispatch, hfree, running_startUpTo, hruns]
  exact ⟨rfl, rfl⟩

end Controller

namespace Course

open QueueLog (about about_append about_cons_self streak)
open Alarms (ringTime tickLength)

variable {s t u : Course κ ε} {k : κ} {time : Instant}

/-! ### Taking up an end -/

/-- The failures of a key in a row, the newest end included, as far as they are counted. This is
what the policy is asked with. -/
def failuresInRow (s : Course κ ε) (k : κ) : Nat :=
  min (streak (about k s.log)) Bookkeeping.maxFailures

/-- A time, or the one that is recorded if that is earlier, as it is kept after a failure. -/
def earliest (time : Instant) (recorded? : Option Instant) : Instant :=
  recorded?.elim time (min time ·)

/-- How the controller takes up the end of the first reconcile that ended. -/
structure Completes (policy : QueuePolicy ε) (s : Course κ ε) (k : κ) (outcome : Outcome ε)
    (rest : List (κ × Outcome ε)) : Prop where
  /-- After a success no failures are kept. -/
  forgets : outcome.isFailure = false → (s.act policy).controller.book.failures.get? k = none
  /-- After a failure the failures in a row are kept. -/
  counts : outcome.isFailure = true →
    (s.act policy).controller.book.failures.get? k = some (s.failuresInRow k)
  /-- A failure asks for the delay after so many failures in a row. -/
  asks {error : ε} : outcome = .failure error →
    { s.controller with ended := rest }.weigh policy s.now k outcome =
      { s.controller with ended := rest, book := s.controller.book.fail k }.retryLater s.now k
        (policy.retryAfter error (s.failuresInRow k))
  /-- What was cut short asks for the standard delay after so many failures in a row. -/
  asksStandard : outcome = .panic →
    { s.controller with ended := rest }.weigh policy s.now k outcome =
      { s.controller with ended := rest, book := s.controller.book.fail k }.retryLater s.now k
        (Backoff.standard.delay (s.failuresInRow k))
  /-- When nothing is left to do no retry is recorded. -/
  done : outcome = .success .done → (s.act policy).controller.book.retries.get? k = none
  /-- When the key is to be looked at again, that time is recorded, whatever was before. -/
  requeued {delay : Span} : outcome = .success (.requeue delay) →
    (s.act policy).controller.book.retries.get? k = some (s.now + delay.toNanos)
  /-- After a failure the delay is recorded, unless an earlier time is. -/
  failed {error : ε} : outcome = .failure error →
    (s.act policy).controller.book.retries.get? k = some (earliest
      (s.now + (policy.retryAfter error (s.failuresInRow k)).toNanos)
      (s.controller.book.retries.get? k))
  /-- What was cut short is retried like a failure, after the standard delay. -/
  panicked : outcome = .panic →
    (s.act policy).controller.book.retries.get? k = some (earliest
      (s.now + (Backoff.standard.delay (s.failuresInRow k)).toNanos)
      (s.controller.book.retries.get? k))

/-- What is kept and recorded when the controller takes up the end of a reconcile. -/
theorem completes (h : Reachable policy s) {outcome : Outcome ε} {rest : List (κ × Outcome ε)}
    (hstage : s.controller.stage = .serving) (hgoes : s.controller.signalled = false)
    (hended : s.controller.ended = (k, outcome) :: rest) : s.Completes policy k outcome rest := by
  have hover : s.controller.isOverdrawn = false := by simp [Controller.isOverdrawn, hended]
  have htake : s.controller.takeUp? policy s.now =
      some ({ s.controller with ended := rest }.complete policy s.now k outcome) := by
    rw [Controller.takeUp?, hended]
  have hserves := serves_of_takeUp? hstage hgoes hover htake
  -- What counts is what the outcome leads to: neither the end nor the starts after it change it.
  obtain ⟨hfailures, hretries⟩ :
      (s.act policy).controller.book.failures =
          ({ s.controller with ended := rest }.weigh policy s.now k outcome).book.failures ∧
        (s.act policy).controller.book.retries =
          ({ s.controller with ended := rest }.weigh policy s.now k outcome).book.retries := by
    obtain ⟨hfailures, hretries⟩ := Controller.memory_dispatch policy s.now
      ({ s.controller with ended := rest }.complete policy s.now k outcome)
    rw [hserves.controller]
    exact ⟨hfailures.trans (Bookkeeping.failures_finish _ _),
      hretries.trans (Bookkeeping.retries_finish _ _)⟩
  obtain ⟨n, hn⟩ := h.history.tallies k
  have hmem : (k, outcome) ∈ s.controller.ended := by
    rw [hended]
    exact List.mem_cons_self
  have hstreak := hn.pending hmem
  have hkept := Controller.failures_weigh_self policy s.now
    (c := { s.controller with ended := rest }) outcome hn.kept
  rw [← hstreak] at hkept
  have hnumber : outcome.isFailure = true →
      (s.controller.book.fail k).failuresOf k = s.failuresInRow k := by
    intro hfailure
    rw [Bookkeeping.failuresOf_fail hn.kept, failuresInRow, hstreak, if_pos hfailure]
  have hasks : ∀ error, { s.controller with ended := rest }.weigh policy s.now k (.failure error) =
      { s.controller with ended := rest, book := s.controller.book.fail k }.retryLater s.now k
        (policy.retryAfter error ((s.controller.book.fail k).failuresOf k)) := fun _ => rfl
  have hpanics : { s.controller with ended := rest }.weigh policy s.now k .panic =
      { s.controller with ended := rest, book := s.controller.book.fail k }.retryLater s.now k
        (Backoff.standard.delay ((s.controller.book.fail k).failuresOf k)) := rfl
  refine ⟨?_, ?_, ?_, ?_, ?_, ?_, ?_, ?_⟩
  · intro hsuccess
    rw [hfailures, hkept, hstreak, hsuccess]
    rfl
  · intro hfailure
    rw [hfailures, hkept, failuresInRow, Bookkeeping.kept, if_neg]
    rw [hstreak, if_pos hfailure]
    exact Nat.succ_ne_zero n
  · rintro error rfl
    rw [hasks, hnumber rfl]
  · rintro rfl
    rw [hpanics, hnumber rfl]
  · rintro rfl
    rw [hretries]
    exact SortedMap.get?_erase_self _ _
  · rintro delay rfl
    rw [hretries]
    exact Controller.retries_weigh_requeue _ _ _ _ _
  · rintro error rfl
    rw [hretries, hasks, hnumber rfl, Controller.retries_retryLater]
    rfl
  · rintro rfl
    rw [hretries, hpanics, hnumber rfl, Controller.retries_retryLater]
    rfl

/-! ### Taking up a retry -/

/-- The alarm of an idle key rings, and its retry is taken up: the moment that a recorded retry
waits for. -/
structure Rings (policy : QueuePolicy ε) (u : Course κ ε) (k : κ) (time : Instant) : Prop where
  /-- The key is idle. -/
  idle : u.controller.book.standing k = .idle
  /-- Its retry is recorded. -/
  recorded : u.controller.book.retries.get? k = some time
  /-- The retry is due. -/
  due : time ≤ u.now
  /-- The retry is what the controller takes up. -/
  taken : u.controller.takenUp policy u.now = [(k, .retried time)]
  /-- The key is woken up. -/
  serves : ∃ alarms, u.controller.alarms.poll u.now = (some k, alarms) ∧
    u.Serves policy { u.controller with alarms, book := u.controller.book.retry k }

/-- What a controller takes up is the retry of an idle key, or it is not about that key, unless the
key is received. -/
theorem Serves.rings_or_spares {d : Controller κ ε} (hserves : s.Serves policy d)
    (h : Reachable policy s) (hidle : s.controller.book.standing k = .idle)
    (hrecorded : s.controller.book.retries.get? k = some time)
    (hunasked : (k, .received) ∉ s.controller.takenUp policy s.now) :
    s.Rings policy k time ∨ ∀ e ∈ s.controller.takenUp policy s.now, e.1 ≠ k := by
  have htake := hserves.takeUp
  have htaken : s.controller.takenUp policy s.now = s.controller.takenUp policy s.now := rfl
  rw [Controller.takeUp?] at htake
  conv_rhs at htaken => rw [Controller.takenUp]
  cases hended : s.controller.ended with
  | cons first rest =>
    obtain ⟨j, outcome⟩ := first
    rw [hended] at htaken
    refine .inr fun e he => ?_
    rw [htaken, List.mem_singleton] at he
    rw [he]
    rintro rfl
    have hactive := h.history.active_of_ended hserves.stage (hended ▸ List.mem_cons_self)
    rcases Bookkeeping.standing_of_active hactive with hbusy | hbusy
    · exact absurd (hidle.symm.trans hbusy) (by decide)
    · exact absurd (hidle.symm.trans hbusy) (by decide)
  | nil =>
    rw [hended] at htaken htake
    by_cases hawake : s.controller.alarms.isAwake s.now = true
    · simp only [if_pos hawake] at htaken htake
      obtain ⟨rings, alarms, hpoll⟩ :
          ∃ rings alarms, s.controller.alarms.poll s.now = (rings, alarms) := ⟨_, _, rfl⟩
      rw [Controller.rung, hpoll] at htaken
      cases rings with
      | none =>
        refine .inr ?_
        rw [htaken]
        rintro _ ⟨⟩
      | some j =>
        by_cases hj : j = k
        · subst hj
          by_cases hdue : time ≤ s.now
          · refine .inl ⟨hidle, hrecorded, hdue, ?_, alarms, hpoll, ?_⟩
            · rw [htaken]
              simp [Controller.dueTime?, hrecorded, Option.filter, hdue]
            · rw [Controller.tick_of_due hpoll hrecorded hdue] at htake
              exact Option.some.inj htake ▸ hserves
          · refine .inr ?_
            rw [htaken]
            simp [Controller.dueTime?, hrecorded, Option.filter, hdue]
        · refine .inr fun e he => ?_
          rw [htaken] at he
          obtain ⟨_, -, rfl⟩ := List.mem_map.mp he
          exact hj
    · simp only [if_neg hawake] at htaken
      refine .inr fun e he => ?_
      rw [htaken] at he hunasked
      obtain ⟨j, hj, rfl⟩ := List.mem_map.mp he
      rintro rfl
      exact hunasked (List.mem_map_of_mem hj)

/-- Nothing happens to an idle key when what is taken up is about other keys. -/
theorem Serves.about_eq {d : Controller κ ε} (hserves : s.Serves policy d)
    (h : Reachable policy s) (hidle : s.controller.book.standing k = .idle)
    (hspared : ∀ e ∈ s.controller.takenUp policy s.now, e.1 ≠ k) :
    about k (s.act policy).log = about k s.log := by
  have htaken := h.history.takeUp hserves.stage hserves.takeUp
  have hsame : about k ((s.controller.takenUp policy s.now).reverse ++ s.log) =
      about k s.log := by
    rw [about_append, QueueLog.about_eq_nil fun e he => hspared e (List.mem_reverse.mp he)]
    rfl
  have hstarts : about k ((d.dispatch policy s.now).2.map fun run =>
      (run.key, QueueEvent.started)).reverse = ([] : List (QueueEvent ε)) := by
    refine QueueLog.about_eq_nil fun e he => ?_
    obtain ⟨run, hrun, rfl⟩ := List.mem_map.mp (List.mem_reverse.mp he)
    rintro rfl
    have hwaits := (htaken.mem_ready_iff _).mp (Controller.mem_ready_of_startUpTo hrun)
    rw [hsame, ← h.history.standing_eq] at hwaits
    exact absurd (hidle.symm.trans hwaits) (by decide)
  rw [hserves.log, List.append_assoc, about_append, hstarts, hsame]
  rfl

namespace Rings

/-- What happens in the step: the retry is taken up, and some reconciles are started. -/
theorem log (h : u.Rings policy k time) :
    ∃ since, (u.act policy).log = since ++ (k, .retried time) :: u.log := by
  obtain ⟨alarms, -, hserves⟩ := h.serves
  have hlog := hserves.log
  rw [h.taken, List.append_assoc] at hlog
  exact ⟨_, hlog⟩

/-- If a worker is free the reconcile is started in the same step, and nothing else is. -/
theorem free (h : u.Rings policy k time) (hreachable : Reachable policy u)
    (hfree : u.controller.inFlight < max policy.workers 1) :
    (u.act policy).log = (k, .started) :: (k, .retried time) :: u.log ∧
      ⟨k, u.now, u.now + policy.timeout.toNanos⟩ ∈ (u.act policy).controller.running := by
  obtain ⟨alarms, -, hserves⟩ := h.serves
  have hnone : u.controller.book.ready = [] := by
    rcases hreachable.conserves hserves.stage with hnone | hfull
    · exact hnone
    · exact absurd hfull (Nat.ne_of_lt hfree)
  have hready : (u.controller.book.retry k).ready = [k] := by
    have hpush := Bookkeeping.ready_push
      { u.controller.book with retries := u.controller.book.retries.erase k } k
    refine hpush.trans ((if_pos h.idle).trans ?_)
    show u.controller.book.ready ++ [k] = _
    rw [hnone]
    rfl
  obtain ⟨hruns, hrunning⟩ := Controller.dispatch_single u.now
    (c := { u.controller with alarms, book := u.controller.book.retry k }) hready hfree
  refine ⟨?_, ?_⟩
  · rw [hserves.log, hruns, h.taken]
    rfl
  · rw [hserves.controller, hrunning]
    exact List.mem_append_right _ (List.mem_singleton_self _)

/-- Otherwise the reconcile is started before the controller has a worker to spare. -/
theorem soon (h : u.Rings policy k time) (hreachable : Reachable policy u)
    (hlater : Leads policy (u.act policy) t) (hstage : t.controller.stage = .serving)
    (hsettled : t.controller.step? policy t.now = none)
    (hfree : t.controller.running.length < max policy.workers 1) :
    ∃ since, t.log = since ++ (k, .retried time) :: u.log ∧ (k, .started) ∈ since := by
  obtain ⟨first, hfirst⟩ := h.log
  obtain ⟨later, hsplit⟩ := hlater.log
  have ht := (hreachable.next (.act u)).leads hlater
  refine ⟨later ++ first, by rw [hsplit, hfirst, List.append_assoc], ?_⟩
  by_contra hunstarted
  have hquiet : ∀ e ∈ about k (later ++ first), e.isStarted = false := by
    intro e he
    cases e with
    | started => exact absurd (QueueLog.mem_of_about he) hunstarted
    | enqueued | received | retried | ended | completed => rfl
  have hwoken : Standing.ofEvents (about k ((k, .retried time) :: u.log)) = .waiting := by
    rw [about_cons_self, Standing.ofEvents, ← hreachable.history.standing_eq, h.idle]
    rfl
  obtain ⟨hwaits, -⟩ := QueueLog.calls_of_waiting hwoken hquiet
  rw [← about_append, List.append_assoc, ← hfirst, ← hsplit, ← ht.history.mem_ready_iff] at hwaits
  rcases ht.full_of_settled hstage hsettled with hnone | hfull
  · rw [hnone] at hwaits
    cases hwaits
  · exact absurd hfull (Nat.ne_of_lt hfree)

end Rings

/-- An idle key that is not received stays idle until its retry is taken up. -/
theorem Prompt.idle_or_rings (h : Prompt policy s)
    (hidle : s.controller.book.standing k = .idle)
    (hrecorded : s.controller.book.retries.get? k = some time) (hlater : PromptlyLeads policy s t)
    (hserving : t.controller.stage = .serving)
    (hunasked : ∀ later, t.log = later ++ s.log → (k, .received) ∉ later) :
    (t.controller.book.standing k = .idle ∧ t.controller.book.retries.get? k = some time) ∨
      ∃ u, PromptlyLeads policy s u ∧ u.Rings policy k time ∧
        PromptlyLeads policy (u.act policy) t := by
  induction hlater with
  | refl => exact .inl ⟨hidle, hrecorded⟩
  | @tail t t' hlater hstep ih =>
    obtain ⟨later, hlog⟩ := (PromptlyLeads.leads hlater).log
    obtain ⟨new, hnew⟩ := Leads.log (.single hstep.step)
    have hsplit : t'.log = (new ++ later) ++ s.log := by rw [hnew, hlog, List.append_assoc]
    have hboth := hunasked _ hsplit
    rw [List.mem_append, not_or] at hboth
    have hbefore : ∀ later', t.log = later' ++ s.log → (k, .received) ∉ later' := by
      intro later' hlog'
      rw [List.append_cancel_right (hlog'.symm.trans hlog)]
      exact hboth.2
    have hserved := hstep.step.serving hserving
    rcases ih hserved hbefore with ⟨hidle, hrecorded⟩ | ⟨u, hu, hrings, hafter⟩
    · have hreachable := (h.leads hlater).reachable
      obtain ⟨hcan, hprompt⟩ := hstep
      cases hcan with
      | enqueue | begin _ | signal | wait _ => exact .inl ⟨hidle, hrecorded⟩
      | @finish run outcome hrun hbegun =>
        have hbook := Controller.book_endRun t.controller t.now run.key outcome
        exact .inl ⟨(congrArg (·.standing k) hbook).trans hidle,
          (congrArg (·.retries.get? k) hbook).trans hrecorded⟩
      | act =>
        rcases act_cases policy t with hsame | hleft | ⟨d, hserves⟩
        · rw [hsame]
          exact .inl ⟨hidle, hrecorded⟩
        · exact absurd hserving hleft
        · have hspares : (k, .received) ∉ t.controller.takenUp policy t.now := by
            intro hreceived
            rw [hserves.log, List.append_cancel_right_eq] at hnew
            refine hboth.1 (hnew ▸ List.mem_append_right _ (List.mem_reverse.mpr hreceived))
          rcases hserves.rings_or_spares hreachable hidle hrecorded hspares with hrings | hspared
          · exact .inr ⟨t, hlater, hrings, .refl⟩
          · have habout := hserves.about_eq hreachable hidle hspared
            have hnext := (hreachable.next (.act t)).history
            refine .inl ⟨?_, ?_⟩
            · rw [hnext.standing_eq, habout, ← hreachable.history.standing_eq]
              exact hidle
            · rw [hnext.retries_eq, habout, ← hreachable.history.retries_eq]
              exact hrecorded
    · exact .inr ⟨u, hu, hrings, hafter.tail hstep⟩

/-! ### The retries of a key in time -/

/-- The recorded retry of a key is taken up between two points of a course. -/
structure Retried (policy : QueuePolicy ε) (s u t : Course κ ε) (k : κ) (time : Instant) :
    Prop where
  /-- It comes after the one. -/
  before : PromptlyLeads policy s u
  /-- It comes before the other. -/
  after : PromptlyLeads policy (u.act policy) t
  /-- That is in the very millisecond for which it is recorded. -/
  onTime : u.now = ringTime time
  /-- It is exactly at the recorded time if that is a whole millisecond. -/
  exact : tickLength ∣ time → u.now = time
  /-- The retry is taken up. -/
  taken : ∃ since, (u.act policy).log = since ++ (k, .retried time) :: u.log
  /-- If a worker is free the reconcile is started in the same step. -/
  free : u.controller.inFlight < max policy.workers 1 →
    (u.act policy).log = (k, .started) :: (k, .retried time) :: u.log ∧
      ⟨k, u.now, u.now + policy.timeout.toNanos⟩ ∈ (u.act policy).controller.running
  /-- Otherwise it is started before a worker is idle. -/
  soon {v : Course κ ε} : Leads policy (u.act policy) v → v.controller.stage = .serving →
    v.controller.step? policy v.now = none →
    v.controller.running.length < max policy.workers 1 →
    ∃ since, v.log = since ++ (k, .retried time) :: u.log ∧ (k, .started) ∈ since

/-- What a course shows of the failures of a key and the times of its retries. -/
structure RetriesOnTime (policy : QueuePolicy ε) (s : Course κ ε) (k : κ) : Prop where
  /-- When all ends were taken up, the failures in a row are kept, and none after a success. -/
  kept : k ∉ s.controller.ended.map (·.1) →
    s.controller.book.failures.get? k = Bookkeeping.kept (streak (about k s.log))
  /-- The end of a reconcile is taken up as the failures in a row ask for. -/
  completes {outcome : Outcome ε} {rest : List (κ × Outcome ε)} :
    s.controller.stage = .serving → s.controller.signalled = false →
    s.controller.ended = (k, outcome) :: rest → s.Completes policy k outcome rest
  /-- If nothing else wakes the key up, its reconcile is started again at the recorded time. -/
  onTime {t : Course κ ε} {time : Instant} : Prompt policy s →
    s.controller.book.standing k = .idle → s.controller.book.retries.get? k = some time →
    PromptlyLeads policy s t → t.controller.stage = .serving →
    (∀ later, t.log = later ++ s.log → (k, .received) ∉ later) →
    ringTime time < t.now ∨ ringTime time = t.now ∧ t.controller.step? policy t.now = none →
    ∃ u, Retried policy s u t k time

/-- The retries of a key follow its failures. The delay after a failure is the one for as many
failures as there have been in a row, and a success forgets them; a retry is recorded for the time
of the success that asks for one, or for the earliest time that a failure asks for; and at the
recorded time an idle key is reconciled again when a worker is free. -/
theorem retries_follow_the_failures (h : Reachable policy s) (k : κ) :
    s.RetriesOnTime policy k := by
  refine ⟨?_, completes h, ?_⟩
  · intro hsettled
    obtain ⟨n, hn⟩ := h.history.tallies k
    rw [hn.settled hsettled]
    exact hn.kept
  · intro t time hprompt hidle hrecorded hlater hserving hunasked hover
    rcases hprompt.idle_or_rings hidle hrecorded hlater hserving hunasked with
      ⟨-, hrecorded⟩ | ⟨u, hu, hrings, hafter⟩
    · -- At that time the retry would have been taken up.
      have ht := hprompt.leads hlater
      rcases hover with hlate | ⟨hnow, hsettled⟩
      · exact absurd (ht.le_ringTime hserving hrecorded) (Nat.not_le.mpr hlate)
      · exact absurd hnow.symm (Nat.ne_of_lt (ht.lt_ringTime hserving hsettled hrecorded))
    · have hprompt := hprompt.leads hu
      obtain ⟨alarms, hpoll, hserves⟩ := hrings.serves
      have hnow := hprompt.now_of_due hserves.stage hpoll hrings.recorded hrings.due
      exact ⟨u, hu, hafter, hnow, fun hwhole => hnow.trans (Alarms.ringTime_of_whole hwhole),
        hrings.log, hrings.free hprompt.reachable, hrings.soon hprompt.reachable⟩

/-- A key is enqueued and started, and its reconcile begins, all at the time 0. -/
def begun : Course String Unit :=
  let started := (enqueue { now := 0 } "a").act .oneWorker
  { started with controller := started.controller.beginRun, fresh := [] }

/-- The reconcile fails, and its end is yet to be taken up. -/
def ailing : Course String Unit := begun.finish "a" (.failure ())

/-- The end of the reconcile is taken up, and five seconds go by. -/
def resting : Course String Unit := { ailing.act .oneWorker with now := 5000000000 }

/-- No time goes by until the reconcile of the first key has begun. -/
theorem promptlyLeads_begun : PromptlyLeads .oneWorker { now := 0 } begun := by
  have henqueued : PromptlyLeads .oneWorker { now := 0 } (enqueue { now := 0 } "a") :=
    .single (.of_now_eq (.enqueue _ "a") rfl)
  have hstarted := henqueued.tail (.of_now_eq (.act _) rfl)
  have hfresh : ((enqueue { now := 0 } "a").act .oneWorker).fresh = [] ++ firstRun :: [] := by
    decide
  exact hstarted.tail (.of_now_eq (.begin _ hfresh) rfl)

/-- Whatever the outcome of the reconcile that has begun, the course in which it ends is prompt. -/
theorem prompt_finish_begun (outcome : Outcome Unit) :
    Prompt .oneWorker (begun.finish "a" outcome) := by
  have hrunning : firstRun ∈ begun.controller.running := by decide
  exact ⟨0, promptlyLeads_begun.tail
    (.of_now_eq (.finish _ outcome hrunning List.not_mem_nil) rfl)⟩

/-- The course in which the reconcile fails is prompt. -/
theorem prompt_ailing : Prompt .oneWorker ailing := prompt_finish_begun (.failure ())

/-- The five seconds are those until the next alarm, so that the time goes by promptly. -/
theorem promptlyLeads_resting :
    PromptlyLeads .oneWorker (ailing.act .oneWorker) (resting.act .oneWorker) := by
  have hnext : (ailing.act .oneWorker).controller.nextTime? .oneWorker 0 = some 5000000000 := by
    decide
  have hwait : PromptStep .oneWorker (ailing.act .oneWorker) resting := by
    refine ⟨.wait _ (Nat.zero_le _), fun hsome => ?_⟩
    obtain rfl := Option.some.inj (hnext.symm.trans hsome)
    decide
  exact (Relation.ReflTransGen.single hwait).tail (.of_now_eq (.act resting) (now_act _ _))

/-- The first failure of the key is retried after five seconds, at that very time. -/
theorem ailing_is_retried_on_time :
    Prompt .oneWorker ailing ∧ ailing.failuresInRow "a" = 1 ∧
      ailing.Completes .oneWorker "a" (.failure ()) [] ∧
      (ailing.act .oneWorker).RetriesOnTime .oneWorker "a" ∧
      (ailing.act .oneWorker).controller.book.retries.get? "a" = some 5000000000 ∧
      ∃ u, Retried .oneWorker (ailing.act .oneWorker) u (resting.act .oneWorker) "a" 5000000000 ∧
        u.now = 5000000000 := by
  have hprompt := prompt_ailing.leads (.single (.of_now_eq (.act ailing) (now_act _ _)))
  have hbefore := retries_follow_the_failures prompt_ailing.reachable "a"
  have hafter := retries_follow_the_failures hprompt.reachable "a"
  have hrecorded : (ailing.act .oneWorker).controller.book.retries.get? "a" = some 5000000000 := by
    decide
  have hunasked : ∀ later, (resting.act .oneWorker).log = later ++ (ailing.act .oneWorker).log →
      ("a", QueueEvent.received) ∉ later := by
    intro later hlater
    have hlog : (resting.act .oneWorker).log = [("a", .started), ("a", .retried 5000000000)] ++
        (ailing.act .oneWorker).log := by rfl
    rw [← List.append_cancel_right (hlog.symm.trans hlater)]
    simp
  obtain ⟨u, hretried⟩ := hafter.onTime hprompt (by decide) hrecorded promptlyLeads_resting
    (by decide) hunasked (.inr ⟨by decide, by decide⟩)
  exact ⟨prompt_ailing, by decide, hbefore.completes (by decide) (by decide) (by decide), hafter,
    hrecorded, u, hretried, hretried.exact (by decide)⟩

/-! ### What keeps a retry from its time -/

/-- A key misses the time of its retry: the retry is recorded while the key is idle, and when that
time has come nothing lies before the controller and a worker is free, and still nothing has
happened to any key. -/
structure Misses (policy : QueuePolicy ε) (s t : Course κ ε) (k : κ) (time : Instant) : Prop where
  /-- The courses are prompt. -/
  prompt : Prompt policy s
  /-- The one comes after the other. -/
  later : PromptlyLeads policy s t
  /-- The key is idle. -/
  idle : s.controller.book.standing k = .idle
  /-- Its retry is recorded. -/
  recorded : s.controller.book.retries.get? k = some time
  /-- The time has come. -/
  now : t.now = time
  /-- Nothing lies before the controller. -/
  settled : t.controller.step? policy t.now = none
  /-- A worker is free. -/
  free : t.controller.inFlight < max policy.workers 1
  /-- Nothing was received, taken up or started meanwhile. -/
  unstarted : t.log = s.log

/-- The reconcile asks to be called again after a nanosecond, and its end is taken up. The retry is
recorded for that time, and the alarm is set for the next whole millisecond. -/
def hurried : Course String Unit :=
  (begun.finish "a" (.success (.requeue (Span.ofNanos 1)))).act .oneWorker

/-- Two keys are enqueued and started by two workers, and the reconcile of the first one begins. -/
def uneven : Course String Unit :=
  let started := ((enqueue { now := 0 } "a").enqueue "b").act .twoWorkers
  { started with
    controller := started.controller.beginRun
    fresh := [{ firstRun with key := "b" }] }

/-- The other reconcile begins as well, so that both workers are busy. -/
def pair : Course String Unit :=
  { uneven with controller := uneven.controller.beginRun, fresh := [] }

/-- The first one fails, and its end is taken up, so that a retry is recorded and a worker is
free. -/
def parted : Course String Unit := (pair.finish "a" (.failure ())).act .twoWorkers

/-- Then the controller is told to shut down, and it waits for the other reconcile to end. -/
def closing : Course String Unit :=
  { parted with controller := parted.controller.signal }.act .twoWorkers

/-- The course of two workers in which one reconcile has failed is prompt: it all happens at one
time. -/
theorem prompt_parted : Prompt .twoWorkers parted := by
  have hkeys : PromptlyLeads .twoWorkers { now := 0 } ((enqueue { now := 0 } "a").enqueue "b") :=
    (Relation.ReflTransGen.single (.of_now_eq (.enqueue _ "a") rfl)).tail
      (.of_now_eq (.enqueue _ "b") rfl)
  have hstarted := hkeys.tail (.of_now_eq (.act _) rfl)
  have hfresh : (((enqueue { now := 0 } "a").enqueue "b").act .twoWorkers).fresh =
      [] ++ firstRun :: [{ firstRun with key := "b" }] := by
    decide
  have hfirst : PromptlyLeads .twoWorkers { now := 0 } uneven :=
    hstarted.tail (.of_now_eq (.begin _ hfresh) rfl)
  have hsecond : uneven.fresh = [] ++ { firstRun with key := "b" } :: [] := rfl
  have hboth : PromptlyLeads .twoWorkers { now := 0 } pair :=
    hfirst.tail (.of_now_eq (.begin _ hsecond) rfl)
  have hrunning : firstRun ∈ pair.controller.running := by decide
  have hended := hboth.tail (.of_now_eq (.finish _ (.failure ()) hrunning List.not_mem_nil) rfl)
  exact ⟨0, hended.tail (.of_now_eq (.act _) (now_act _ _))⟩

/-- A retry after a nanosecond is not taken up after a nanosecond, as the alarm rings after a whole
millisecond. -/
theorem misses_hurried : Misses .oneWorker hurried { hurried with now := 1 } "a" 1 := by
  have hnext : hurried.controller.nextTime? .oneWorker 0 = some 1000000 := by decide
  have hprompt : Prompt .oneWorker hurried :=
    (prompt_finish_begun _).leads (.single (.of_now_eq (.act _) (now_act _ _)))
  have hwait : PromptStep .oneWorker hurried { hurried with now := 1 } := by
    refine ⟨.wait _ (Nat.zero_le _), fun hsome => ?_⟩
    obtain rfl := Option.some.inj (hnext.symm.trans hsome)
    decide
  refine ⟨hprompt, .single hwait, ?_, ?_, rfl, ?_, ?_, rfl⟩
  all_goals decide

/-- A retry that is due while the controller waits for the other reconcile is not taken up, although
one of the two workers is free. -/
theorem misses_parted :
    Misses .twoWorkers parted { closing with now := 5000000000 } "a" 5000000000 := by
  have hsignal : PromptlyLeads .twoWorkers parted closing :=
    (Relation.ReflTransGen.single (.of_now_eq (.signal parted) rfl)).tail
      (.of_now_eq (.act _) (now_act _ _))
  -- A controller that only waits for the end of a reconcile does not care about the time.
  have hnever : closing.controller.nextTime? .twoWorkers 0 = none := by decide
  have hpatient : PromptStep .twoWorkers closing { closing with now := 5000000000 } :=
    ⟨.wait _ (Nat.zero_le _), fun hsome => nomatch hnever.symm.trans hsome⟩
  refine ⟨prompt_parted, hsignal.tail hpatient, ?_, ?_, rfl, ?_, ?_, rfl⟩
  all_goals decide

/-- Two things keep an idle key from being started at the very time for which its retry is
recorded, though a worker is free then. The alarms know whole milliseconds only, so that a retry
after a nanosecond comes after a millisecond; and a controller that was told to shut down starts
nothing any more while it waits for another key. -/
theorem retries_may_miss_their_time :
    (Misses .oneWorker hurried { hurried with now := 1 } "a" 1 ∧
      ({ hurried with now := 1000000 }.act .oneWorker).log =
        ("a", .started) :: ("a", .retried 1) :: hurried.log) ∧
      Misses .twoWorkers parted { closing with now := 5000000000 } "a" 5000000000 :=
  ⟨⟨misses_hurried, rfl⟩, misses_parted⟩

end Course

end WorkspaceAccess
