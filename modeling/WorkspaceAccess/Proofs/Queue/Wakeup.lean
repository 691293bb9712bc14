import WorkspaceAccess.Proofs.Queue.Standing

/-!
# No Wake-Up Is Lost and None Is Made Up

A key that is enqueued is not forgotten: until its next reconcile is started, it lies in the inbox,
or it waits, or its reconcile is in flight and it is marked to wait once more. A reconcile is only
started when the key was taken from the inbox, or its retry was due, after the start before.
Wake-ups that find the key waiting lead to nothing more, and all those that come during one
reconcile lead to one further reconcile at most.

The inbox is emptied in the order in which it was filled, so that the keys that were received are
the first ones among those that were enqueued. With that a key that was enqueued since its newest
start is found in the inbox, or it was received since that start: had it been received before, it
would have been enqueued before.

Everything about a single key is a statement about the list of its events, its standing and the
calls among them. The count of the starts is exact: with the start that may be owed it is the number
of calls, each of which is a wake-up of its own.

## Main results

* `History.keysOf_enqueued`: keys are taken from the inbox in the order in which they were enqueued.
* `History.received_of_enqueued`, `History.owed_of_enqueued`: where a key that was enqueued since
  its newest start is to be found.
* `wake_ups_are_neither_lost_nor_made_up`: no wake-up of a key is lost, every start has a wake-up of
  its own, and wake-ups coalesce, for every reachable course and every key.
* `busy_is_woken_up`: a key that is enqueued during its reconcile.
-/

namespace WorkspaceAccess

variable {κ ε : Type} [KeyOrder κ] {policy : QueuePolicy ε}

namespace History

open QueueLog

variable {c : Controller κ ε} {log : QueueLog κ ε}

/-- Keys are taken from the inbox in the order in which they were enqueued. -/
theorem keysOf_enqueued (h : History policy c log) :
    keysOf QueueEvent.isEnqueued log = c.inbox.reverse ++ keysOf QueueEvent.isReceived log := by
  induction h with
  | initial => rfl
  | begin _ ih | signal _ ih | roll _ _ _ ih | postpone _ _ _ _ _ ih | ignore _ _ _ _ ih
  | drain _ _ ih | collapse _ _ _ ih | stop _ _ ih | retry _ _ _ _ _ ih
  | start _ _ _ _ _ ih => exact ih
  | enqueue k _ ih =>
    show k :: keysOf QueueEvent.isEnqueued _ = (_ ++ [k]).reverse ++ _
    rw [ih, List.reverse_append]
    rfl
  | finish _ _ _ _ ih =>
    rw [Controller.inbox_endRun]
    exact ih
  | complete _ _ _ _ ih =>
    rw [Controller.inbox_complete]
    exact ih
  | @receive c log k rest _ hinbox _ ih =>
    show keysOf QueueEvent.isEnqueued log = rest.reverse ++ k :: keysOf QueueEvent.isReceived log
    rw [ih, hinbox, List.reverse_cons, List.append_assoc]
    rfl

/-- A key is taken from the inbox at most as often as it is enqueued. -/
theorem received_le_enqueued (h : History policy c log) (k : κ) :
    (about k log).countP QueueEvent.isReceived ≤ (about k log).countP QueueEvent.isEnqueued := by
  rw [countP_about, countP_about, h.keysOf_enqueued, List.countP_append]
  omega

/-- A key that was enqueued since its newest start lies in the inbox, or was taken from it. -/
theorem received_of_enqueued (h : History policy c log) (k : κ)
    (hsent : lately QueueEvent.isEnqueued (about k log) = true) :
    k ∈ c.inbox ∨ lately QueueEvent.isReceived (about k log) = true := by
  induction h with
  | initial => cases hsent
  | begin _ ih | signal _ ih | roll _ _ _ ih | postpone _ _ _ _ _ ih | ignore _ _ _ _ ih
  | drain _ _ ih | collapse _ _ _ ih | stop _ _ ih => exact ih hsent
  | @enqueue c log j _ ih =>
    by_cases hj : j = k
    · exact .inl (List.mem_append.mpr (.inr (List.mem_singleton.mpr hj.symm)))
    · rw [about_cons_of_ne hj] at hsent ⊢
      exact (ih hsent).imp_left fun hk => List.mem_append.mpr (.inl hk)
  | finish _ _ _ _ ih =>
    rw [lately_about_cons rfl rfl] at hsent ⊢
    rw [Controller.inbox_endRun]
    exact ih hsent
  | complete _ _ _ _ ih =>
    rw [lately_about_cons rfl rfl] at hsent ⊢
    rw [Controller.inbox_complete]
    exact ih hsent
  | retry _ _ _ _ _ ih =>
    rw [lately_about_cons rfl rfl] at hsent ⊢
    exact ih hsent
  | @receive c log j rest _ hinbox _ ih =>
    by_cases hj : j = k
    · refine .inr ?_
      rw [hj, about_cons_self, lately_cons]
      rfl
    · rw [about_cons_of_ne hj] at hsent ⊢
      refine (ih hsent).imp_left ?_
      rw [hinbox, List.mem_cons]
      rintro (hk | hk)
      · exact absurd hk.symm hj
      · exact hk
  | @start c log j _ _ _ _ _ _ ih =>
    by_cases hj : j = k
    · rw [hj, about_cons_self, lately_cons] at hsent
      cases hsent
    · rw [about_cons_of_ne hj] at hsent ⊢
      exact ih hsent

/-- A key that was enqueued since its newest start lies in the inbox, or a reconcile is owed to
it. -/
theorem owed_of_enqueued (h : History policy c log) (k : κ)
    (hsent : lately QueueEvent.isEnqueued (about k log) = true) :
    k ∈ c.inbox ∨ k ∈ c.book.ready ∨
      (c.book.active.contains k = true ∧ c.book.dirty.contains k = true) := by
  refine (h.received_of_enqueued k hsent).imp_right ?_
  intro hreceived
  have hwoken : lately QueueEvent.isWakeUp (about k log) = true := by
    rw [lately, List.any_eq_true] at hreceived ⊢
    obtain ⟨e, he, hkind⟩ := hreceived
    exact ⟨e, he, by simp [QueueEvent.isWakeUp, hkind]⟩
  have howed : (c.book.standing k).isOwed = true := by
    rw [h.standing_eq, isOwed_eq_lately]
    exact hwoken
  exact h.orderly.book.isOwed_iff.mp howed

end History

namespace Course

open QueueLog

/-- What a course shows of the wake-ups of a key. -/
structure WakesUp (s : Course κ ε) (k : κ) : Prop where
  /-- A key that was enqueued since its newest start lies in the inbox, waits, or is active and
  dirty. -/
  kept : lately QueueEvent.isEnqueued (about k s.log) = true →
    k ∈ s.controller.inbox ∨ k ∈ s.controller.book.ready ∨
      (s.controller.book.active.contains k = true ∧ s.controller.book.dirty.contains k = true)
  /-- The keys that were received are the first ones of those that were enqueued. -/
  inOrder : keysOf QueueEvent.isEnqueued s.log =
    s.controller.inbox.reverse ++ keysOf QueueEvent.isReceived s.log
  /-- Before every start the key was received, or its retry was due, after the start before. -/
  justified : Always (fun e earlier => e.isStarted = true →
    lately QueueEvent.isWakeUp earlier = true) (about k s.log)
  /-- There are not more starts than keys enqueued and retries due. -/
  bounded : (about k s.log).countP QueueEvent.isStarted ≤
    (about k s.log).countP QueueEvent.isEnqueued + (about k s.log).countP QueueEvent.isRetried
  /-- The bookkeeping holds the standing that the events lead to. -/
  standing : s.controller.book.standing k = .ofEvents (about k s.log)
  /-- The starts, with the one that may be owed, are as many as the events call for. -/
  counted : (about k s.log).countP QueueEvent.isStarted +
    (s.controller.book.standing k).isOwed.toNat = calls (about k s.log)
  /-- What happens while the key waits calls for nothing more. -/
  whileWaiting {later earlier : List (QueueEvent ε)} : about k s.log = later ++ earlier →
    Standing.ofEvents earlier = .waiting → (∀ e ∈ later, e.isStarted = false) →
    calls (about k s.log) = calls earlier
  /-- What happens during a reconcile of the key calls for one more at most. -/
  whileRunning {later earlier : List (QueueEvent ε)} : about k s.log = later ++ earlier →
    Standing.ofEvents earlier = .running → (∀ e ∈ later, e.isCompleted = false) →
    calls (about k s.log) ≤ calls earlier + 1

/-- No wake-up of a key is lost, and no reconcile is started without one: whatever happens, a key
that was enqueued is reconciled once more or is on the way to it, every start has a wake-up of its
own, and wake-ups coalesce while the key waits and during its reconcile. -/
theorem wake_ups_are_neither_lost_nor_made_up {s : Course κ ε} (h : Reachable policy s) (k : κ) :
    s.WakesUp k := by
  have hlaw := h.history.startsWaiting k
  have hcounted := starts_add_owed hlaw
  have hstanding := h.history.standing_eq k
  refine ⟨h.history.owed_of_enqueued k, h.history.keysOf_enqueued, ?_, ?_, hstanding, ?_, ?_, ?_⟩
  · intro later e earlier hsplit hstart
    cases e with
    | started =>
      have hwaiting : Standing.ofEvents earlier = .waiting := hlaw later _ earlier hsplit
      rw [← isOwed_eq_lately, hwaiting]
      rfl
    | enqueued | ended | received | retried | completed => cases hstart
  · have hcalls := calls_le_wakeUps (about k s.log)
    have hwakes := countP_wakeUps (about k s.log)
    have hreceived := h.history.received_le_enqueued k
    omega
  · rw [hstanding]
    exact hcounted
  · intro later earlier hsplit hwaiting hlater
    rw [hsplit]
    exact (calls_of_waiting hwaiting hlater).2
  · intro later earlier hsplit hrunning hlater
    rw [hsplit] at hlaw ⊢
    rcases calls_of_running hrunning hlater hlaw with ⟨-, hcalls⟩ | ⟨-, hcalls⟩
    · omega
    · omega

/-- The key that was enqueued during its reconcile is owed another one. -/
theorem busy_is_woken_up :
    QueueLog.lately QueueEvent.isEnqueued (QueueLog.about "a" busy.log) = true ∧
      busy.WakesUp "a" ∧ QueueLog.calls (QueueLog.about "a" busy.log) = 2 :=
  ⟨by decide, wake_ups_are_neither_lost_nor_made_up reachable_busy "a", by decide⟩

end Course

end WorkspaceAccess
