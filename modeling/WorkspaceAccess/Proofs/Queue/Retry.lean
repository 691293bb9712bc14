import WorkspaceAccess.Proofs.Queue.Recording

/-!
# No Retry Is Lost and None Comes Early

What happened to a key decides which retry is recorded for it (`QueueLog.recorded?`), whatever
happens to other keys, so that what becomes of a key after a failure can be read from its events
alone: a retry is recorded for it until the retry is due, then the key waits or is active, and so it
goes on until a reconcile leaves nothing to do.

A retry is not lost in spite of the ways in which it may be overtaken: the key is enqueued and
reconciled before, its alarm is set for an earlier time that means nothing any more, or another
failure asks for a later time. Neither does it come early. An alarm may ring before the recorded
time, but that does not wake the key up; the alarm is set anew.

Every recorded time leads to one wake-up at most. This is a count: the retries that were due, with
the one that may still be recorded, are not more than the times that were recorded
(`QueueLog.retried_add_recorded`).

## Main results

* `QueueLog.looked_after`: a key whose newest reconcile left something to do is not idle, or a retry
  is recorded for it.
* `History.retries_eq`: the bookkeeping records what the events of the key lead to.
* `History.punctual`, `History.isAwaited`: alarms are not early, and every recorded retry is
  awaited.
* `History.keepsRetries`: whatever happens to a key keeps its retries, as a law about each event.
* `retries_are_neither_lost_nor_early`: what a reachable course keeps of the retries of a key.
* `failing_is_retried`: a key that failed and is to be retried after five seconds.
-/

namespace WorkspaceAccess

/-! ### What follows from the events alone -/

namespace QueueLog

open Standing (ofEvents)

variable {ε : Type} {events : List (QueueEvent ε)}

/-- The time of the retry that is recorded for a key after its events. It is used up when the retry
is due, and an outcome forgets it, keeps it or records another one. -/
def recorded? : List (QueueEvent ε) → Option Instant
  | [] => none
  | .completed outcome new? :: earlier => recordedAfter? outcome new? (recorded? earlier)
  | .retried _ :: _ => none
  | .enqueued :: earlier | .received :: earlier | .started :: earlier | .ended _ :: earlier =>
    recorded? earlier

/-- How the newest reconcile that ended did end, whether or not that was taken up. -/
def lastOutcome? : List (QueueEvent ε) → Option (Outcome ε)
  | [] => none
  | .ended outcome :: _ => some outcome
  | .enqueued :: earlier | .received :: earlier | .retried _ :: earlier | .started :: earlier
  | .completed .. :: earlier => lastOutcome? earlier

/-- A retry is due when it is recorded, a reconcile ends when it is in flight, and the end that is
taken up is the newest one; unless nothing is left to do, a retry is recorded then. -/
def KeepsRetries : QueueEvent ε → List (QueueEvent ε) → Prop
  | .retried time, earlier => recorded? earlier = some time
  | .ended _, earlier => ofEvents earlier = .running ∨ ofEvents earlier = .again
  | .completed outcome new?, earlier => lastOutcome? earlier = some outcome ∧
      (outcome ≠ .success .done → (recordedAfter? outcome new? (recorded? earlier)).isSome = true)
  | .enqueued, _ | .received, _ | .started, _ => True

/-- Every recorded time is used up by one due retry at most. -/
theorem retried_add_recorded (h : Always KeepsRetries events) :
    events.countP QueueEvent.isRetried + (recorded? events).isSome.toNat ≤
      events.countP QueueEvent.isRecorded := by
  induction events with
  | nil => exact Nat.le_refl 0
  | cons e earlier ih =>
    obtain ⟨hlaw, hearlier⟩ := always_cons.mp h
    have ih := ih hearlier
    rw [List.countP_cons, List.countP_cons]
    cases e with
    | enqueued | received | started | ended => exact ih
    | retried time =>
      have hrecorded : recorded? earlier = some time := hlaw
      simpa [hrecorded, recorded?, QueueEvent.isRetried, QueueEvent.isRecorded] using ih
    | completed outcome new? =>
      cases new? with
      | some time =>
        have hone := Bool.toNat_le (recorded? (.completed outcome (some time) :: earlier)).isSome
        simp only [QueueEvent.isRetried, QueueEvent.isRecorded, if_true, Bool.false_eq_true,
          if_false]
        omega
      | none =>
        cases hfailure : outcome.isFailure with
        | true =>
          simpa [recorded?, recordedAfter?, hfailure, QueueEvent.isRetried,
            QueueEvent.isRecorded] using ih
        | false =>
          simp only [recorded?, recordedAfter?, hfailure, Bool.false_eq_true, if_false,
            QueueEvent.isRetried, QueueEvent.isRecorded, Option.or_none, Option.isSome_none,
            Bool.toNat_false]
          omega

/-- A key whose newest reconcile left something to do is being looked after. -/
theorem looked_after (h : Always KeepsRetries events) {outcome : Outcome ε}
    (hlast : lastOutcome? events = some outcome) (hleft : outcome ≠ .success .done) :
    ofEvents events ≠ .idle ∨ (recorded? events).isSome = true := by
  induction events with
  | nil => cases hlast
  | cons e earlier ih =>
    obtain ⟨hlaw, hearlier⟩ := always_cons.mp h
    have ih := ih hearlier
    rw [ofEvents]
    cases e with
    | enqueued => exact ih hlast
    | received | retried => exact .inl (Standing.woken_ne_idle _)
    | started =>
      refine .inl ?_
      rw [Standing.after]
      decide
    | ended =>
      refine .inl ?_
      rcases hlaw with hrunning | hagain
      · rw [Standing.after, hrunning]
        decide
      · rw [Standing.after, hagain]
        decide
    | completed out new? =>
      obtain ⟨hnewest, hrecorded⟩ := hlaw
      have hsame : lastOutcome? earlier = some outcome := hlast
      rw [hnewest] at hsame
      obtain rfl := Option.some.inj hsame
      exact .inr (hrecorded hleft)

end QueueLog

variable {κ ε : Type} [KeyOrder κ]

/-! ### The retries in a history -/

namespace History

open QueueLog (about about_cons_self about_cons_of_ne apply_about_cons recorded? lastOutcome?)

variable {policy : QueuePolicy ε} {c : Controller κ ε} {log : QueueLog κ ε}

/-- The bookkeeping records the retry that what happened to a key leads to. -/
theorem retries_eq (h : History policy c log) (k : κ) :
    c.book.retries.get? k = recorded? (about k log) := by
  induction h with
  | initial => rfl
  | begin _ ih | signal _ ih | roll _ _ _ ih | postpone _ _ _ _ _ ih | ignore _ _ _ _ ih
  | drain _ _ ih | collapse _ _ _ ih | stop _ _ ih => exact ih
  | enqueue j _ ih => exact ih.trans (apply_about_cons (fun _ => rfl) _ _ _).symm
  | finish now outcome _ _ ih =>
    rw [Controller.book_endRun]
    exact ih.trans (apply_about_cons (fun _ => rfl) _ _ _).symm
  | @complete c log j outcome rest now _ _ _ ih =>
    show (Bookkeeping.finish _ j).retries.get? k = _
    rw [Bookkeeping.retries_finish]
    by_cases hj : k = j
    · subst hj
      rw [about_cons_self, Controller.retries_weigh_self, recorded?]
      exact congrArg _ ih
    · rw [about_cons_of_ne (Ne.symm hj), Controller.retries_weigh_of_ne _ _ _ _ hj]
      exact ih
  | @retry c log _ _ _ j _ _ _ _ _ ih =>
    show (c.book.retry j).retries.get? k = _
    rw [Bookkeeping.retries_retry]
    by_cases hj : k = j
    · rw [hj, SortedMap.get?_erase_self, about_cons_self]
      rfl
    · rw [SortedMap.get?_erase_of_ne hj, about_cons_of_ne (Ne.symm hj)]
      exact ih
  | @receive c log j _ _ _ _ ih =>
    show (c.book.push j).retries.get? k = _
    rw [Bookkeeping.retries_push]
    exact ih.trans (apply_about_cons (fun _ => rfl) _ _ _).symm
  | @start c log j book now _ hnext _ _ ih =>
    show book.retries.get? k = _
    rw [Bookkeeping.retries_next hnext]
    exact ih.trans (apply_about_cons (fun _ => rfl) _ _ _).symm

/-- No alarm is set for a time before the one that was asked for. -/
theorem punctual (h : History policy c log) : c.alarms.Punctual := by
  induction h with
  | initial => exact nofun
  | enqueue _ _ ih | begin _ ih | signal _ ih | receive _ _ _ ih | start _ _ _ _ _ ih
  | drain _ _ ih | collapse _ _ _ ih | stop _ _ ih => exact ih
  | finish _ _ _ _ ih =>
    rw [Controller.endRun]
    split <;> exact ih
  | @complete c log j outcome rest now _ _ _ ih =>
    exact Controller.punctual_weigh (c := { c with ended := rest }) ih policy now j outcome
  | roll _ hpoll _ ih =>
    intro k e hk
    rw [Alarms.pending_of_rests hpoll] at hk
    exact ih k e hk
  | retry _ hpoll _ _ _ ih | ignore _ hpoll _ _ ih =>
    exact ih.of_erase (Alarms.poll_eq_some hpoll).1
  | postpone _ hpoll _ _ _ ih =>
    exact (ih.of_erase (Alarms.poll_eq_some hpoll).1).request _ _

/-- Every recorded retry has an alarm that is not later. -/
theorem isAwaited (h : History policy c log) : c.IsAwaited := by
  induction h with
  | initial => exact nofun
  | enqueue _ _ ih | begin _ ih | signal _ ih | drain _ _ ih | collapse _ _ _ ih
  | stop _ _ ih => exact ih.of_frame rfl fun _ => rfl
  | finish _ _ _ _ ih =>
    rw [Controller.endRun]
    split <;> exact ih.of_frame rfl fun _ => rfl
  | @complete c log j outcome rest now _ _ _ ih =>
    have hrest : Controller.IsAwaited { c with ended := rest } := ih.of_frame rfl fun _ => rfl
    exact (hrest.weigh policy now j outcome).of_frame (Bookkeeping.retries_finish _ _)
      fun _ => rfl
  | roll _ hpoll _ ih => exact ih.of_frame rfl fun _ => Alarms.time?_of_rests hpoll _
  | @retry c log _ _ _ j _ hpoll _ _ _ ih =>
    -- The alarm of the key is gone, and so is its retry.
    intro i t hi
    have hretries : (c.book.retries.erase j).get? i = some t :=
      Bookkeeping.retries_retry c.book j ▸ hi
    rw [SortedMap.get?_erase] at hretries
    show ∃ due ≤ t, Alarms.time? _ i = some due
    rw [Alarms.time?_of_rings hpoll]
    split at hretries
    · cases hretries
    · rename_i hij
      rw [if_neg hij]
      exact ih i t hretries
  | @postpone c log _ time alarms j _ hpoll hlater _ _ ih =>
    have hother : ∀ i, i ≠ j → ∀ t, c.book.retries.get? i = some t →
        ∃ due ≤ t, alarms.time? i = some due := by
      intro i hij t hi
      rw [Alarms.time?_of_rings hpoll, if_neg fun hc => hij (KeyOrder.compare_eq_iff.mp hc)]
      exact ih i t hi
    exact Controller.IsAwaited.of_request (c := { c with alarms }) hother hlater
      (fun _ _ => rfl) rfl
  | @ignore c log _ _ j _ hpoll hnone _ ih =>
    intro i t hi
    have hretries : c.book.retries.get? i = some t := hi
    have hij : i ≠ j := by
      rintro rfl
      rw [hnone] at hretries
      cases hretries
    show ∃ due ≤ t, Alarms.time? _ i = some due
    rw [Alarms.time?_of_rings hpoll, if_neg fun hc => hij (KeyOrder.compare_eq_iff.mp hc)]
    exact ih i t hretries
  | receive _ _ _ ih => exact ih.of_frame (Bookkeeping.retries_push _ _) fun _ => rfl
  | start _ _ hnext _ _ ih => exact ih.of_frame (Bookkeeping.retries_next hnext) fun _ => rfl

/-- The reconciles whose ends are to be taken up are the newest ones of their keys. -/
theorem lastOutcome_of_ended (h : History policy c log) {k : κ} {outcome : Outcome ε}
    (hended : (k, outcome) ∈ c.ended) : lastOutcome? (about k log) = some outcome := by
  induction h with
  | initial => cases hended
  | begin _ ih | signal _ ih | roll _ _ _ ih | postpone _ _ _ _ _ ih | ignore _ _ _ _ ih
  | drain _ _ ih | collapse _ _ _ ih | stop _ _ ih => exact ih hended
  | enqueue _ _ ih | retry _ _ _ _ _ ih | receive _ _ _ ih | start _ _ _ _ _ ih =>
    exact (apply_about_cons (fun _ => rfl) _ _ _).trans (ih hended)
  | complete now _ hsplit _ ih =>
    rw [(Controller.complete_frame policy now _ _ _).2.1] at hended
    refine (apply_about_cons (fun _ => rfl) _ _ _).trans (ih ?_)
    rw [hsplit]
    exact List.mem_cons_of_mem _ hended
  | @finish c log run now out hrun h ih =>
    rw [Controller.ended_endRun now out hrun, List.mem_append, List.mem_singleton] at hended
    rcases hended with hended | hnew
    · have hflight := h.orderly.nodup
      rw [Controller.inFlightKeys, List.nodup_append] at hflight
      obtain ⟨-, -, hapart⟩ := hflight
      have hne := hapart _ (List.mem_map_of_mem hrun) _ (List.mem_map_of_mem hended)
      rw [about_cons_of_ne hne]
      exact ih hended
    · obtain ⟨rfl, rfl⟩ := Prod.mk.inj hnew
      rw [about_cons_self]
      rfl

/-- Whatever happens to a key keeps the law of its retries, by induction on the history. -/
theorem keepsRetries (h : History policy c log) (k : κ) :
    QueueLog.Always QueueLog.KeepsRetries (about k log) := by
  induction h with
  | initial => exact QueueLog.always_nil
  | begin _ ih | signal _ ih | roll _ _ _ ih | postpone _ _ _ _ _ ih | ignore _ _ _ _ ih
  | drain _ _ ih | collapse _ _ _ ih | stop _ _ ih => exact ih
  | enqueue _ _ ih | receive _ _ _ ih | start _ _ _ _ _ ih =>
    exact QueueLog.always_about_cons ih fun _ => trivial
  | @finish c log run now outcome hrun h ih =>
    refine QueueLog.always_about_cons ih ?_
    rintro rfl
    show Standing.ofEvents _ = _ ∨ Standing.ofEvents _ = _
    rw [← h.standing_eq]
    exact Bookkeeping.standing_of_active (h.orderly.active_of_running hrun)
  | @complete c log j outcome rest now _ hended h ih =>
    refine QueueLog.always_about_cons ih ?_
    rintro rfl
    refine ⟨h.lastOutcome_of_ended (hended ▸ List.mem_cons_self), fun hleft => ?_⟩
    have hrecorded := Controller.isSome_retries_weigh policy now { c with ended := rest }
      (k := j) hleft
    rw [Controller.retries_weigh_self] at hrecorded
    rw [← h.retries_eq]
    exact hrecorded
  | retry _ _ hdue _ h ih =>
    refine QueueLog.always_about_cons ih ?_
    rintro rfl
    exact (h.retries_eq _).symm.trans hdue

end History

/-! ### The retries in a course -/

namespace Course

open QueueLog (about)

variable {policy : QueuePolicy ε}

/-- What a course shows of the retries of a key. -/
structure RemembersRetries (s : Course κ ε) (k : κ) : Prop where
  /-- The retry that is recorded is the one that the events lead to. -/
  recorded : s.controller.book.retries.get? k = QueueLog.recorded? (about k s.log)
  /-- A recorded retry has an alarm that is not later. -/
  awaited {time : Instant} : s.controller.book.retries.get? k = some time →
    ∃ due ≤ time, s.controller.alarms.time? k = some due
  /-- An alarm rings at its time or later, and is gone then. -/
  onTime {now : Instant} {alarms : Alarms κ} : s.controller.alarms.poll now = (some k, alarms) →
    ∃ due ≤ now, s.controller.alarms.time? k = some due ∧ alarms.time? k = none
  /-- An alarm for which nothing is recorded changes nothing. -/
  meaningless {now : Instant} {alarms : Alarms κ} :
    s.controller.alarms.poll now = (some k, alarms) → s.controller.book.retries.get? k = none →
    s.controller.tick now = { s.controller with alarms }
  /-- An alarm that rings too early is set anew, for the recorded time. -/
  early {now time : Instant} {alarms : Alarms κ} :
    s.controller.alarms.poll now = (some k, alarms) →
    s.controller.book.retries.get? k = some time → now < time →
    (s.controller.tick now).book = s.controller.book ∧
      (s.controller.tick now).alarms.time? k = some time
  /-- An alarm that rings when the retry is due wakes the key up and uses up the recorded time. -/
  due {now time : Instant} {alarms : Alarms κ} :
    s.controller.alarms.poll now = (some k, alarms) →
    s.controller.book.retries.get? k = some time → time ≤ now →
    (s.controller.tick now).book.standing k = (s.controller.book.standing k).woken ∧
      (s.controller.tick now).book.retries.get? k = none
  /-- Whatever rings, the key is only woken up when its recorded time is over, and then the time
  is recorded no more. -/
  notEarly {now : Instant} :
    (s.controller.tick now).book.standing k ≠ s.controller.book.standing k →
    ∃ time ≤ now, s.controller.book.retries.get? k = some time ∧
      (s.controller.tick now).book.retries.get? k = none
  /-- A retry was only due when it was recorded. -/
  once : QueueLog.Always (fun e earlier => ∀ time, e = .retried time →
    QueueLog.recorded? earlier = some time) (about k s.log)
  /-- There are not more retries due than times recorded, with the one that is still recorded. -/
  counted : (about k s.log).countP QueueEvent.isRetried +
      (s.controller.book.retries.get? k).isSome.toNat ≤
    (about k s.log).countP QueueEvent.isRecorded
  /-- A key whose newest reconcile left something to do waits, is active or is to be retried. -/
  remembered {outcome : Outcome ε} : QueueLog.lastOutcome? (about k s.log) = some outcome →
    outcome ≠ .success .done →
    k ∈ s.controller.book.ready ∨ s.controller.book.active.contains k = true ∨
      ∃ time, s.controller.book.retries.get? k = some time

/-- No retry of a key is lost, and none comes before its time: a recorded retry has an alarm that
is not later, an alarm leads to a reconcile only when the recorded time is over and uses that time
up, and a key whose newest reconcile failed or asked for another one is not forgotten. -/
theorem retries_are_neither_lost_nor_early {s : Course κ ε} (h : Reachable policy s) (k : κ) :
    s.RemembersRetries k := by
  have hlaw := h.history.keepsRetries k
  have hrecorded := h.history.retries_eq k
  refine ⟨hrecorded, h.history.isAwaited k _, h.history.punctual.of_rings,
    Controller.tick_of_unrecorded, ?_, ?_, Controller.due_of_standing_tick_ne, ?_, ?_, ?_⟩
  · intro now time alarms hpoll htime hearly
    rw [Controller.tick_of_early hpoll htime hearly]
    refine ⟨rfl, ?_⟩
    rw [Alarms.time?_request, if_pos (KeyOrder.compare_self k), Alarms.time?_of_rings hpoll,
      if_pos (KeyOrder.compare_self k)]
    rfl
  · intro now time alarms hpoll htime hdue
    rw [Controller.tick_of_due hpoll htime hdue]
    refine ⟨Bookkeeping.standing_push_self _ _, ?_⟩
    show (s.controller.book.retry k).retries.get? k = none
    rw [Bookkeeping.retries_retry, SortedMap.get?_erase_self]
  · rintro later e earlier hsplit time rfl
    exact hlaw later _ earlier hsplit
  · rw [hrecorded]
    exact QueueLog.retried_add_recorded hlaw
  · intro outcome hlast hleft
    rcases QueueLog.looked_after hlaw hlast hleft with hbusy | hsome
    · rw [← h.history.standing_eq] at hbusy
      rcases h.history.orderly.book.of_standing_ne_idle hbusy with hready | hactive
      · exact .inl hready
      · exact .inr (.inl hactive)
    · rw [← hrecorded] at hsome
      exact .inr (.inr (Option.isSome_iff_exists.mp hsome))

/-- The reconcile of the first key, which starts at once and has a minute. -/
def firstRun : Run String := ⟨"a", 0, (Span.ofSeconds 60).toNanos⟩

/-- It begins and fails, and its end is taken up. -/
def failing : Course String Unit :=
  ({ busy with controller := busy.controller.beginRun, fresh := [] }.finish "a"
    (.failure ())).act .oneWorker

/-- The course in which the first key fails comes about from the busy one. -/
theorem reachable_failing : Reachable .oneWorker failing := by
  have hfresh : busy.fresh = [] ++ firstRun :: [] := by decide
  have hbegun := reachable_busy.next (.begin busy hfresh)
  have hrunning : firstRun ∈ busy.controller.beginRun.running := by decide
  have hended := hbegun.next (.finish _ (.failure ()) hrunning List.not_mem_nil)
  exact hended.next (.act _)

/-- The failed key is to be retried after five seconds, and has an alarm for that time. -/
theorem failing_is_retried :
    QueueLog.lastOutcome? (about "a" failing.log) = some (.failure ()) ∧
      failing.controller.book.retries.get? "a" = some 5000000000 ∧
      (∃ due ≤ 5000000000, failing.controller.alarms.time? "a" = some due) ∧
      failing.RemembersRetries "a" := by
  have hretries := retries_are_neither_lost_nor_early reachable_failing "a"
  have hrecorded : failing.controller.book.retries.get? "a" = some 5000000000 := by decide
  exact ⟨by decide, hrecorded, hretries.awaited hrecorded, hretries⟩

end Course

end WorkspaceAccess
