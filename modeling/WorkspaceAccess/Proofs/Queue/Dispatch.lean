import WorkspaceAccess.Proofs.Queue.Retry

/-!
# Keys Are Started in Turn

A key comes to wait for one of three reasons: it is received while it is idle, its retry is due
while it is idle, or the end of its reconcile is taken up while it is dirty. Each of these is its
*turn* to queue up, and the log tells all turns of all keys (`QueueLog.turns`).

The waiting keys are a queue that is only entered at one end and left at the other. So the turns
are, at any time, the starts and after them the keys that still wait, in this very order; and since
no key waits twice, those that are started while one of them waits are different keys. That is what
fairness means here: however often other keys ask to be reconciled, each of them is started once at
most before it is the turn of a key that waits.

The second half is about idle workers. A controller dispatches at the end of each step, and until
its next step nothing leaves the queue and nothing that is in flight is taken up. So after every
step of a serving controller either no key waits or as many reconciles are in flight as there are
workers (`Controller.Conserves`). Among those in flight may be some that have ended; once nothing
lies before the controller, all of them run.

## Main results

* `ready_push`, `ready_finish`: a key goes to the end of the queue when its turn comes, and not at
  all otherwise.
* `History.turns_eq`: the turns are the starts and the waiting keys, by induction on the history.
* `History.nodup_starts`: no key is started twice while another one waits.
* `startUpTo_full`, `conserves_dispatch`: so many reconciles are started as there is room for, or no
  key waits any more.
* `Reachable.conserves`: as long as a controller serves, no worker is idle while a key waits.
* `keys_are_served_in_turn`: all of it for every reachable course and any number of workers.
* `failing_is_served_in_turn`: a dirty key is put behind another one when its reconcile failed.
-/

namespace WorkspaceAccess

variable {κ ε : Type} [KeyOrder κ] {policy : QueuePolicy ε}

namespace Standing

/-- An event makes a key wait that did not wait before, which is the turn of the key to queue up. -/
def joins (s : Standing) (e : QueueEvent ε) : Bool := s ≠ .waiting && s.after e = .waiting

/-- An event that leaves a key as it stands does not make it wait. -/
theorem joins_of_same {s : Standing} {e : QueueEvent ε} (h : s.after e = s) :
    ¬s.joins e = true := by
  rw [joins, h]
  cases s <;> decide

end Standing

namespace QueueLog

open Standing (ofEvents)

/-- The keys that came to wait, each as often as it did, the newest first. Each event is judged by
the standing of its key before it. -/
def turns : QueueLog κ ε → List κ
  | [] => []
  | (k, e) :: earlier =>
    if (ofEvents (about k earlier)).joins e then k :: turns earlier else turns earlier

/-- The turns of an earlier log come first, so the order in which keys are served never changes
afterwards. -/
theorem turns_suffix (later earlier : QueueLog κ ε) :
    turns earlier <:+ turns (later ++ earlier) := by
  induction later with
  | nil => exact List.suffix_refl _
  | cons entry later ih =>
    rw [List.cons_append, turns]
    split
    · exact ih.trans (List.suffix_cons _ _)
    · exact ih

end QueueLog

/-! ### The queue of the waiting keys -/

namespace Bookkeeping

variable {b : Bookkeeping κ} {k : κ}

/-- A key that is pushed goes to the end of the queue when it is idle, and not at all otherwise. -/
theorem ready_push (b : Bookkeeping κ) (k : κ) :
    (b.push k).ready = if b.standing k = .idle then b.ready ++ [k] else b.ready := by
  rw [push]
  split
  · rename_i hactive
    have hbusy : b.standing k ≠ .idle := by
      rcases standing_of_active hactive with h | h <;> rw [h] <;> decide
    rw [if_neg hbusy]
  · rename_i hactive
    by_cases hqueued : b.queued.contains k = true <;> simp [standing, hactive, hqueued]

/-- A key whose reconcile is over goes to the end of the queue when it is to run again. -/
theorem ready_finish (h : b.Consistent) (hk : b.active.contains k = true) :
    (b.finish k).ready = if b.standing k = .again then b.ready ++ [k] else b.ready := by
  have hqueued : b.queued.contains k = false := by
    rw [Bool.eq_false_iff, Ne, h.queued_iff]
    exact h.not_mem_ready hk
  have herased : ∀ s : SortedSet κ, (s.erase k).contains k = false := by
    intro s
    simp [SortedMap.contains]
  have hidle : standing { b with active := b.active.erase k, dirty := b.dirty.erase k } k =
      .idle := by
    simp [standing, herased, hqueued]
  unfold finish
  by_cases hdirty : b.dirty.contains k = true
  · rw [if_pos hdirty, ready_push, if_pos hidle]
    simp [standing, hk, hdirty]
  · simp [standing, hk, hdirty]

end Bookkeeping

/-! ### Turns, starts and waiting keys -/

namespace History

open QueueLog (about turns keysOf keysOf_cons)

variable {c : Controller κ ε} {log : QueueLog κ ε}

/-- The turns of the keys are the starts and after them the keys that still wait. -/
theorem turns_eq (h : History policy c log) :
    turns log = c.book.ready.reverse ++ keysOf QueueEvent.isStarted log := by
  induction h with
  | initial => rfl
  | begin _ ih | signal _ ih | roll _ _ _ ih | postpone _ _ _ _ _ ih | ignore _ _ _ _ ih
  | drain _ _ ih | collapse _ _ _ ih | stop _ _ ih => exact ih
  | enqueue k _ ih =>
    rw [turns, keysOf_cons, if_neg (Standing.joins_of_same rfl)]
    exact ih
  | finish _ _ _ _ ih =>
    rw [turns, keysOf_cons, if_neg (Standing.joins_of_same rfl), Controller.book_endRun]
    exact ih
  | @complete c log k outcome rest now hstage hended h ih =>
    have hsame := Controller.sameKeys_weigh policy now { c with ended := rest } k outcome
    have hactive := h.active_of_ended hstage (hended ▸ List.mem_cons_self)
    have hready := Bookkeeping.ready_finish (h.orderly.book.of_sameKeys hsame)
      (hsame.active ▸ hactive)
    rw [Bookkeeping.standing_of_sameKeys hsame, hsame.ready, h.standing_eq] at hready
    rw [turns, keysOf_cons, Controller.complete, hready, ih]
    cases Standing.ofEvents (about k log) <;>
      simp [Standing.joins, Standing.after, Standing.rested, QueueEvent.isStarted]
  | @retry c log _ _ _ k _ _ _ _ h ih =>
    have hready : (c.book.retry k).ready =
        if c.book.standing k = .idle then c.book.ready ++ [k] else c.book.ready :=
      Bookkeeping.ready_push { c.book with retries := c.book.retries.erase k } k
    rw [turns, keysOf_cons, hready, h.standing_eq, ih]
    cases Standing.ofEvents (about k log) <;>
      simp [Standing.joins, Standing.after, Standing.woken, QueueEvent.isStarted]
  | @receive c log k _ _ _ h ih =>
    rw [turns, keysOf_cons, Bookkeeping.ready_push, h.standing_eq, ih]
    cases Standing.ofEvents (about k log) <;>
      simp [Standing.joins, Standing.after, Standing.woken, QueueEvent.isStarted]
  | @start c log k book now _ hnext _ h ih =>
    obtain ⟨rest, hready, rfl⟩ := Bookkeeping.next?_eq_some hnext
    rw [turns, keysOf_cons, ih, hready]
    simp [Standing.joins, Standing.after, QueueEvent.isStarted, Controller.start]

/-- A key waits just when its events say so. -/
theorem mem_ready_iff (h : History policy c log) (k : κ) :
    k ∈ c.book.ready ↔ Standing.ofEvents (about k log) = .waiting := by
  rw [← h.standing_eq]
  constructor
  · exact Bookkeeping.standing_of_waiting h.orderly.book
  · intro hwaiting
    rcases h.orderly.book.of_standing_ne_idle (k := k) (by rw [hwaiting]; decide) with
      hready | hactive
    · exact hready
    · rcases Bookkeeping.standing_of_active hactive with hrunning | hagain
      · rw [hrunning] at hwaiting
        cases hwaiting
      · rw [hagain] at hwaiting
        cases hwaiting

/-- The keys that are started while one waits have waited by then, and are different ones. -/
theorem nodup_starts {later earlier : QueueLog κ ε} {k : κ}
    (h : History policy c (later ++ earlier))
    (hwaits : Standing.ofEvents (about k earlier) = .waiting)
    (hstill : k ∉ keysOf QueueEvent.isStarted later) :
    (keysOf QueueEvent.isStarted later).Nodup := by
  obtain ⟨b, hb⟩ := h.earlier (List.suffix_append later earlier)
  obtain ⟨since, hsince⟩ := QueueLog.turns_suffix later earlier
  -- Who waited then and who came to wait since are the ones started since and who waits now.
  have hqueue : (keysOf QueueEvent.isStarted later).reverse ++ c.book.ready =
      b.book.ready ++ since.reverse := by
    rw [h.turns_eq, hb.turns_eq, QueueLog.keysOf_append, ← List.append_assoc,
      ← List.append_assoc] at hsince
    simpa using (congrArg List.reverse (List.append_cancel_right hsince)).symm
  have hk : k ∈ b.book.ready := (hb.mem_ready_iff k).mpr hwaits
  have hstarts : (keysOf QueueEvent.isStarted later).reverse <+: b.book.ready := by
    have hthen : b.book.ready <+: (keysOf QueueEvent.isStarted later).reverse ++ c.book.ready := by
      rw [hqueue]
      exact List.prefix_append _ _
    rcases List.prefix_or_prefix_of_prefix (List.prefix_append _ _) hthen with hstarts | hpassed
    · exact hstarts
    · exact absurd (List.mem_reverse.mp (hpassed.subset hk)) hstill
  exact List.nodup_reverse.mp (hb.orderly.book.nodup.sublist hstarts.sublist)

end History

/-! ### Idle workers -/

namespace Controller

variable {c d : Controller κ ε} {now : Instant}

/-- No worker is idle while a key waits. What is in flight counts until its end is taken up. -/
def Conserves (policy : QueuePolicy ε) (c : Controller κ ε) : Prop :=
  c.book.ready = [] ∨ c.inFlight = max policy.workers 1

/-- So many reconciles are started as there is room for, or no key waits any more. -/
theorem startUpTo_full (policy : QueuePolicy ε) (now : Instant) (n : Nat) (c : Controller κ ε) :
    (startUpTo policy now n c).1.book.ready = [] ∨
      (startUpTo policy now n c).1.inFlight = c.inFlight + n := by
  induction n generalizing c with
  | zero => exact .inr rfl
  | succ n ih =>
    rw [startUpTo]
    split
    · rename_i hnext
      rw [Bookkeeping.next?] at hnext
      split at hnext
      · exact .inl ‹_›
      · cases hnext
    · rename_i k book _
      rcases ih (c.start ⟨k, now, now + policy.timeout.toNanos⟩ book) with hready | hfull
      · exact .inl hready
      · refine .inr (hfull.trans ?_)
        simp only [inFlight, start, List.length_append, List.length_singleton]
        omega

/-- No worker is idle after a dispatch while a key waits. -/
theorem conserves_dispatch (h : c.inFlight ≤ max policy.workers 1) :
    (dispatch policy now c).1.Conserves policy := by
  rcases startUpTo_full policy now (max policy.workers 1 - c.inFlight) c with hready | hfull
  · exact .inl hready
  · exact .inr (hfull.trans (Nat.add_sub_cancel' h))

end Controller

namespace Course

open QueueLog (about turns keysOf)

variable {s : Course κ ε}

/-- Whatever a serving controller does, no worker is idle after it while a key waits. -/
theorem conserves_act (h : Reachable policy s)
    (hconserves : s.controller.stage = .serving → s.controller.Conserves policy)
    (hstage : (s.act policy).controller.stage = .serving) :
    (s.act policy).controller.Conserves policy := by
  rcases act_cases policy s with hsame | hleft | ⟨d, hserves⟩
  · rw [hsame] at hstage ⊢
    exact hconserves hstage
  · exact absurd hstage hleft
  · rw [hserves.controller]
    exact Controller.conserves_dispatch
      (h.history.takeUp hserves.stage hserves.takeUp).orderly.bound

/-- As long as a controller serves, no worker is idle while a key waits, by induction on the
steps. -/
theorem Reachable.conserves (h : Reachable policy s) (hstage : s.controller.stage = .serving) :
    s.controller.Conserves policy := by
  induction h with
  | start now => exact .inl rfl
  | @next s t h step ih =>
    cases step with
    | enqueue k | begin _ | signal | wait _ => exact ih hstage
    | @finish run outcome hrun hbegun =>
      obtain ⟨hsame, -⟩ := s.controller.endRun_frame s.now run.key outcome
      have hflight := (Controller.inFlightKeys_endRun s.now outcome hrun).length_eq
      rw [Controller.length_inFlightKeys, Controller.length_inFlightKeys] at hflight
      rcases ih (hsame.symm.trans hstage) with hready | hfull
      · exact .inl ((congrArg Bookkeeping.ready (Controller.book_endRun _ _ _ _)).trans hready)
      · exact .inr (hflight.trans hfull)
    | act => exact conserves_act h ih hstage

/-- A controller before which nothing lies is at work on every worker, or no key waits. -/
theorem Reachable.full_of_settled (h : Reachable policy s)
    (hstage : s.controller.stage = .serving) (hsettled : s.controller.step? policy s.now = none) :
    s.controller.book.ready = [] ∨ s.controller.running.length = max policy.workers 1 := by
  obtain ⟨-, hended, -⟩ := Controller.of_settled hstage hsettled
  have hconserves := h.conserves hstage
  rw [Controller.Conserves, Controller.inFlight, hended, List.length_nil,
    Nat.add_zero] at hconserves
  exact hconserves

/-- How the keys of a course take their turns. -/
structure ServesInTurn (policy : QueuePolicy ε) (s : Course κ ε) : Prop where
  /-- A key waits just when its events say so. -/
  waits (k : κ) : k ∈ s.controller.book.ready ↔ Standing.ofEvents (about k s.log) = .waiting
  /-- The keys that came to wait, in the order in which they did, are those that were started, in
  the order in which they were, and after them those that still wait. -/
  inOrder : (turns s.log).reverse =
    (keysOf QueueEvent.isStarted s.log).reverse ++ s.controller.book.ready
  /-- As long as a key waits no other one is started twice. -/
  fair {later earlier : QueueLog κ ε} {k : κ} : s.log = later ++ earlier →
    Standing.ofEvents (about k earlier) = .waiting → k ∉ keysOf QueueEvent.isStarted later →
    (keysOf QueueEvent.isStarted later).Nodup
  /-- Before the shutdown no worker is idle while a key waits. -/
  conserved : s.controller.stage = .serving →
    s.controller.book.ready = [] ∨ s.controller.inFlight = max policy.workers 1
  /-- When nothing lies before the controller it is at work for a key on every worker, or no key
  waits. -/
  settled : s.controller.stage = .serving → s.controller.step? policy s.now = none →
    s.controller.book.ready = [] ∨ s.controller.running.length = max policy.workers 1

/-- Keys are started in the order in which they came to wait, no key is started twice while another
one waits, and no worker is idle while a key waits. -/
theorem keys_are_served_in_turn (h : Reachable policy s) : s.ServesInTurn policy := by
  refine ⟨h.history.mem_ready_iff, ?_, ?_, h.conserves, h.full_of_settled⟩
  · rw [h.history.turns_eq, List.reverse_append, List.reverse_reverse]
  · intro later earlier k hsplit hwaits hstill
    exact (hsplit ▸ h.history).nodup_starts hwaits hstill

/-- The dirty key was put behind the other one when its reconcile failed. -/
theorem failing_is_served_in_turn :
    Reachable .oneWorker failing ∧ (turns failing.log).reverse = ["a", "b", "a"] ∧
      (keysOf QueueEvent.isStarted failing.log).reverse = ["a", "b"] ∧
      failing.controller.book.ready = ["a"] ∧ failing.controller.stage = .serving ∧
      failing.controller.running.length = 1 ∧ failing.ServesInTurn .oneWorker := by
  have hserves := keys_are_served_in_turn reachable_failing
  exact ⟨reachable_failing, by decide, by decide, by decide, by decide, by decide, hserves⟩

end Course

end WorkspaceAccess
