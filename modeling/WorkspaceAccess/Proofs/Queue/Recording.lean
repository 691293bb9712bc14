import WorkspaceAccess.Proofs.Queue.Punctual
import WorkspaceAccess.Proofs.Queue.Standing

/-!
# How Retries Are Recorded

The times of the retries are held twice: the bookkeeping records them, and the alarms keep the
earliest time at which each key asked to be called. The two drift apart on purpose. A success takes
the recorded time away and leaves the alarm, a later time is recorded while an earlier alarm is set,
and an alarm that rings too early asks to be called once more. What holds in all this is that a
recorded retry has an alarm that is not later (`Controller.IsAwaited`).

What an outcome does to the retry of its key is one of three things: the retry is forgotten, the one
that is recorded stays, or a new time is recorded and asked for. `Controller.Weighed` names them,
with what each says about the bookkeeping and about the alarms, and everything else follows from
these three cases instead of from the four outcomes and the look at the earlier time.

An alarm that rings has three cases as well, one for each equation `tick_of_…`: nothing is recorded
for its key, the recorded time is later, or the retry is due.

## Main results

* `retryLater_cases`: a retry is recorded and asked for, unless one that is not later is recorded.
* `Controller.weighed`: whatever the outcome, the retry of its key is forgotten, left or recorded
  anew.
* `retries_weigh_self`, `retries_weigh_of_ne`: the retry that is recorded after an outcome, and that
  those of other keys do not change.
* `IsAwaited.weigh`: retries are still awaited after the consequences of an outcome.
* `tick_of_unrecorded`, `tick_of_early`, `tick_of_due`: what an alarm leads to.
* `Controller.due_of_standing_tick_ne`: a key is only woken up by its own retry, when that is due.
-/

namespace WorkspaceAccess

variable {κ ε : Type} [KeyOrder κ]

/-- The retry that is recorded after an outcome: a new one, or that from before unless the
reconcile succeeded. -/
def QueueLog.recordedAfter? (outcome : Outcome ε) (new? old? : Option Instant) : Option Instant :=
  new?.or (if outcome.isFailure then old? else none)

/-! ### The bookkeeping -/

namespace Bookkeeping

variable {b d : Bookkeeping κ} {k : κ}

/-- Pushing a key leaves the recorded retries of all keys alone. -/
theorem retries_push (b : Bookkeeping κ) (k : κ) : (b.push k).retries = b.retries := by
  rw [push]
  split
  · rfl
  split <;> rfl

/-- The end of a reconcile has been weighed by the time its key is done with, so that the retries
stay. -/
theorem retries_finish (b : Bookkeeping κ) (k : κ) : (b.finish k).retries = b.retries := by
  unfold finish
  simp only
  split
  · exact retries_push _ _
  · rfl

/-- A retry that has come is recorded no more. -/
theorem retries_retry (b : Bookkeeping κ) (k : κ) : (b.retry k).retries = b.retries.erase k :=
  retries_push _ _

/-- Starting the reconcile of a key leaves its retry recorded: it may still be due while it runs. -/
theorem retries_next (h : b.next? = some (k, d)) : d.retries = b.retries := by
  obtain ⟨rest, -, rfl⟩ := next?_eq_some h
  rfl

end Bookkeeping

/-! ### The consequences of an outcome -/

namespace Controller

variable {c d : Controller κ ε} {policy : QueuePolicy ε} {now : Instant} {k : κ}

/-- A retry is recorded and asked for, unless one that is not later is recorded. -/
theorem retryLater_cases (c : Controller κ ε) (now : Instant) (k : κ) (delay : Span) :
    ((c.book.retries.get? k).isSome = true ∧ c.retryLater now k delay = c) ∨
      c.retryLater now k delay = { c with
        book := { c.book with retries := c.book.retries.insert k (now + delay.toNanos) }
        alarms := c.alarms.request k (now + delay.toNanos)
        metrics := c.metrics.requeue } := by
  unfold retryLater Bookkeeping.schedule?
  cases hpending : c.book.retries.get? k with
  | none => exact .inr rfl
  | some pending =>
    by_cases hearlier : pending ≤ now + delay.toNanos
    · simp [hearlier]
    · simp [hearlier]

/-- What an outcome does to the retry of its key: it is forgotten, it stays, or it is recorded
anew and asked for. -/
inductive Weighed (c d : Controller κ ε) (k : κ) : Outcome ε → Option Instant → Prop
  /-- Nothing is left to do. -/
  | done (hretries : d.book.retries = c.book.retries.erase k) (halarms : d.alarms = c.alarms) :
      Weighed c d k (.success .done) none
  /-- The retry that is recorded is not later. -/
  | kept {outcome : Outcome ε} (hfailure : outcome.isFailure = true)
      (hrecorded : (c.book.retries.get? k).isSome = true)
      (hretries : d.book.retries = c.book.retries) (halarms : d.alarms = c.alarms) :
      Weighed c d k outcome none
  /-- A new time is recorded and asked for. -/
  | anew {outcome : Outcome ε} (time : Instant) (hleft : outcome ≠ .success .done)
      (hretries : d.book.retries = c.book.retries.insert k time)
      (halarms : d.alarms = c.alarms.request k time) : Weighed c d k outcome (some time)

/-- No time is recorded when nothing was counted as scheduled. -/
theorem scheduled?_of_requeues_eq {outcome : Outcome ε}
    (h : (c.weigh policy now k outcome).metrics = c.metrics) :
    c.scheduled? policy now k outcome = none := by
  unfold scheduled?
  simp only
  rw [if_pos (congrArg QueueMetrics.requeues h)]

/-- The recorded time is seen when it was counted as scheduled. -/
theorem scheduled?_of_requeue {outcome : Outcome ε} {time : Instant}
    (hmetrics : (c.weigh policy now k outcome).metrics = c.metrics.requeue)
    (htime : (c.weigh policy now k outcome).book.retries.get? k = some time) :
    c.scheduled? policy now k outcome = some time := by
  unfold scheduled?
  simp only
  rw [hmetrics, htime, if_neg]
  exact Nat.succ_ne_self _

/-- A failure leaves the retry that is recorded, or records a new one. -/
theorem weighed_of_failure {outcome : Outcome ε} {delay : Span}
    (hfailure : outcome.isFailure = true)
    (hweigh : c.weigh policy now k outcome =
      { c with book := c.book.fail k }.retryLater now k delay) :
    Weighed c (c.weigh policy now k outcome) k outcome (c.scheduled? policy now k outcome) := by
  have hleft : outcome ≠ .success .done := by
    rintro rfl
    cases hfailure
  rcases retryLater_cases { c with book := c.book.fail k } now k delay with
    ⟨hrecorded, hsame⟩ | hanew
  · rw [hsame] at hweigh
    have hmetrics : (c.weigh policy now k outcome).metrics = c.metrics := by rw [hweigh]
    rw [scheduled?_of_requeues_eq hmetrics, hweigh]
    exact .kept hfailure hrecorded rfl rfl
  · rw [hanew] at hweigh
    have hmetrics : (c.weigh policy now k outcome).metrics = c.metrics.requeue := by rw [hweigh]
    have htime : (c.weigh policy now k outcome).book.retries.get? k =
        some (now + delay.toNanos) := by
      rw [hweigh]
      exact SortedMap.get?_insert_self _ _ _
    rw [scheduled?_of_requeue hmetrics htime, hweigh]
    exact .anew _ hleft rfl rfl

/-- Whatever the outcome, it does one of the three to the retry of its key. -/
theorem weighed (policy : QueuePolicy ε) (now : Instant) (c : Controller κ ε) (k : κ)
    (outcome : Outcome ε) :
    Weighed c (c.weigh policy now k outcome) k outcome (c.scheduled? policy now k outcome) := by
  cases outcome with
  | failure error => exact weighed_of_failure rfl rfl
  | panic => exact weighed_of_failure rfl rfl
  | success action =>
    cases action with
    | done =>
      rw [scheduled?_of_requeues_eq rfl]
      exact .done rfl rfl
    | requeue delay =>
      have hweigh : c.weigh policy now k (.success (.requeue delay)) =
        { c with book := c.book.settle k }.retryLater now k delay := rfl
      rcases retryLater_cases { c with book := c.book.settle k } now k delay with
        ⟨hrecorded, -⟩ | hanew
      · simp [Bookkeeping.settle] at hrecorded
      · rw [hanew] at hweigh
        have htime : (c.weigh policy now k (.success (.requeue delay))).book.retries.get? k =
            some (now + delay.toNanos) := by
          rw [hweigh]
          exact SortedMap.get?_insert_self _ _ _
        rw [scheduled?_of_requeue (congrArg Controller.metrics hweigh) htime, hweigh]
        exact .anew _ nofun (SortedMap.insert_erase _ _ _) rfl

/-- The retry of the key of an outcome is the one that is recorded after it. -/
theorem retries_weigh_self (policy : QueuePolicy ε) (now : Instant) (c : Controller κ ε) (k : κ)
    (outcome : Outcome ε) :
    (c.weigh policy now k outcome).book.retries.get? k = QueueLog.recordedAfter? outcome
      (c.scheduled? policy now k outcome) (c.book.retries.get? k) := by
  have hweighed := weighed policy now c k outcome
  generalize c.scheduled? policy now k outcome = new? at hweighed ⊢
  cases hweighed with
  | done hretries _ =>
    rw [hretries, SortedMap.get?_erase_self]
    rfl
  | kept hfailure _ hretries _ => rw [hretries, QueueLog.recordedAfter?, hfailure, if_pos rfl]; rfl
  | anew time _ hretries _ =>
    rw [hretries, SortedMap.get?_insert_self]
    rfl

/-- A retry is recorded unless the outcome left nothing to do. -/
theorem isSome_retries_weigh (policy : QueuePolicy ε) (now : Instant) (c : Controller κ ε)
    {outcome : Outcome ε} (hleft : outcome ≠ .success .done) :
    ((c.weigh policy now k outcome).book.retries.get? k).isSome = true := by
  have hweighed := weighed policy now c k outcome
  generalize c.scheduled? policy now k outcome = new? at hweighed
  cases hweighed with
  | done => exact absurd rfl hleft
  | kept _ hrecorded hretries _ => rwa [hretries]
  | anew time _ hretries _ =>
    rw [hretries, SortedMap.get?_insert_self]
    rfl

/-- An outcome does nothing to the retries of other keys. -/
theorem retries_weigh_of_ne {j : κ} (policy : QueuePolicy ε) (now : Instant) (c : Controller κ ε)
    (outcome : Outcome ε) (hj : j ≠ k) :
    (c.weigh policy now k outcome).book.retries.get? j = c.book.retries.get? j := by
  have hweighed := weighed policy now c k outcome
  generalize c.scheduled? policy now k outcome = new? at hweighed
  cases hweighed with
  | done hretries _ => rw [hretries, SortedMap.get?_erase_of_ne hj]
  | kept _ _ hretries _ => rw [hretries]
  | anew time _ hretries _ => rw [hretries, SortedMap.get?_insert_of_ne hj]

/-- No alarm is set too early by the consequences of an outcome. -/
theorem punctual_weigh (h : c.alarms.Punctual) (policy : QueuePolicy ε) (now : Instant) (k : κ)
    (outcome : Outcome ε) : (c.weigh policy now k outcome).alarms.Punctual := by
  have hweighed := weighed policy now c k outcome
  generalize c.scheduled? policy now k outcome = new? at hweighed
  cases hweighed with
  | done _ halarms | kept _ _ _ halarms =>
    rw [halarms]
    exact h
  | anew time _ _ halarms =>
    rw [halarms]
    exact h.request k time

/-- The retry that is recorded for a key has an alarm that is not later. -/
def IsAwaited (c : Controller κ ε) : Prop :=
  ∀ k time, c.book.retries.get? k = some time → ∃ due ≤ time, c.alarms.time? k = some due

namespace IsAwaited

/-- Retries are awaited whatever else the bookkeeping and the controller hold. -/
theorem of_frame (h : c.IsAwaited) (hretries : d.book.retries = c.book.retries)
    (halarms : ∀ k, d.alarms.time? k = c.alarms.time? k) : d.IsAwaited := by
  intro k time hk
  rw [hretries] at hk
  rw [halarms]
  exact h k time hk

/-- Whoever is asked to call for a retry does so at its time or before. -/
theorem of_request {time : Instant} (h : ∀ j, j ≠ k → ∀ t, c.book.retries.get? j = some t →
      ∃ due ≤ t, c.alarms.time? j = some due)
    (hself : d.book.retries.get? k = some time)
    (hother : ∀ j, j ≠ k → d.book.retries.get? j = c.book.retries.get? j)
    (halarms : d.alarms = c.alarms.request k time) : d.IsAwaited := by
  intro j t hj
  rw [halarms, Alarms.time?_request]
  by_cases hjk : j = k
  · subst hjk
    rw [hself] at hj
    obtain rfl := Option.some.inj hj
    rw [if_pos (KeyOrder.compare_self j)]
    cases c.alarms.time? j with
    | none => exact ⟨_, Nat.le_refl _, rfl⟩
    | some old => exact ⟨min time old, Nat.min_le_left _ _, rfl⟩
  · rw [if_neg fun hc => hjk (KeyOrder.compare_eq_iff.mp hc)]
    exact h j hjk t (hother j hjk ▸ hj)

/-- Retries are still awaited after the consequences of an outcome. -/
theorem weigh (h : c.IsAwaited) (policy : QueuePolicy ε) (now : Instant) (k : κ)
    (outcome : Outcome ε) : (c.weigh policy now k outcome).IsAwaited := by
  have hweighed := weighed policy now c k outcome
  generalize c.scheduled? policy now k outcome = new? at hweighed
  cases hweighed with
  | done hretries halarms =>
    intro j time hj
    rw [hretries, SortedMap.get?_erase] at hj
    rw [halarms]
    split at hj
    · cases hj
    · exact h j time hj
  | kept _ _ hretries halarms => exact h.of_frame hretries fun j => by rw [halarms]
  | anew time _ hretries halarms =>
    refine of_request (fun j _ => h j) ?_ ?_ halarms
    · rw [hretries, SortedMap.get?_insert_self]
    · intro j hj
      rw [hretries, SortedMap.get?_insert_of_ne hj]

end IsAwaited

end Controller

/-! ### When an alarm rings -/

namespace Controller

variable {c : Controller κ ε} {now time : Instant} {alarms : Alarms κ} {k : κ}

/-- When the alarm of a key rings, it is that key whose retry is looked at. -/
theorem tick_of_rings (hpoll : c.alarms.poll now = (some k, alarms)) :
    c.tick now = { c with alarms }.heed now k := by
  rw [tick, hpoll]

/-- An alarm for which nothing is recorded means nothing. -/
theorem tick_of_unrecorded (hpoll : c.alarms.poll now = (some k, alarms))
    (hnone : c.book.retries.get? k = none) : c.tick now = { c with alarms } := by
  rw [tick_of_rings hpoll, heed]
  simp only [hnone]

/-- An alarm that rings too early is set for the recorded time. -/
theorem tick_of_early (hpoll : c.alarms.poll now = (some k, alarms))
    (hrecorded : c.book.retries.get? k = some time) (hearly : now < time) :
    c.tick now = { c with alarms := alarms.request k time } := by
  rw [tick_of_rings hpoll, heed]
  simp only [hrecorded]
  rw [if_neg (Nat.not_le.mpr hearly)]

/-- An alarm that rings when the retry is due wakes the key up and uses up the recorded time. -/
theorem tick_of_due (hpoll : c.alarms.poll now = (some k, alarms))
    (hrecorded : c.book.retries.get? k = some time) (hdue : time ≤ now) :
    c.tick now = { c with alarms, book := c.book.retry k } := by
  rw [tick_of_rings hpoll, heed]
  simp only [hrecorded]
  rw [if_pos hdue]

/-- Whatever rings, a key is only woken up by its own retry, and only when that is due. -/
theorem due_of_standing_tick_ne (h : (c.tick now).book.standing k ≠ c.book.standing k) :
    ∃ time ≤ now, c.book.retries.get? k = some time ∧
      (c.tick now).book.retries.get? k = none := by
  obtain ⟨rings, alarms, hpoll⟩ : ∃ rings alarms, c.alarms.poll now = (rings, alarms) :=
    ⟨_, _, rfl⟩
  cases rings with
  | none =>
    rw [tick, hpoll] at h
    exact absurd rfl h
  | some j =>
    cases hrecorded : c.book.retries.get? j with
    | none =>
      rw [tick_of_unrecorded hpoll hrecorded] at h
      exact absurd rfl h
    | some time =>
      by_cases hdue : time ≤ now
      · rw [tick_of_due hpoll hrecorded hdue] at h ⊢
        by_cases hkj : k = j
        · subst hkj
          refine ⟨time, hdue, hrecorded, ?_⟩
          show (c.book.retry k).retries.get? k = none
          rw [Bookkeeping.retries_retry, SortedMap.get?_erase_self]
        · exact absurd (Bookkeeping.standing_push_of_ne _ hkj) h
      · rw [tick_of_early hpoll hrecorded (Nat.lt_of_not_le hdue)] at h
        exact absurd rfl h

end Controller

end WorkspaceAccess
