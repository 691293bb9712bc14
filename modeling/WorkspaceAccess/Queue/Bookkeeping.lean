import WorkspaceAccess.SortedMap
import WorkspaceAccess.Time.Instant

/-!
# Bookkeeping of a Work Queue

A key is waiting, or it is active, which means that a reconcile of it is in flight. A key that is
enqueued while it waits is not added a second time: one reconcile that starts later serves both
wishes. A key that is enqueued while it is active becomes dirty, and waits once more after its
reconcile, because that reconcile may have looked at the world before the change that the new wish
is about.

For every key the failures in a row are counted, and the time of the earliest retry is recorded. A
success forgets both. A retry that has come is forgotten as well when its key waits, so a recorded
time is used once.

The set of waiting keys is kept beside their list, so that membership need not be searched for; that
the two agree, and that no key is in two of the sets at once where it should not be, are invariants
that `WorkspaceAccess.Proofs.Queue.Exclusion` proves of every course.

## Main results

* `Bookkeeping.next?_eq_some`: the key that becomes active is the one that waited first, and the
  others keep their order.
* `Bookkeeping.active_push`, `Bookkeeping.active_finish`: no key becomes active by being enqueued,
  and the end of a reconcile makes its key, and only its key, inactive.
-/

namespace WorkspaceAccess

/-- The keys of a work queue that are waiting, active or to be retried. -/
structure Bookkeeping (κ : Type) [KeyOrder κ] where
  /-- The waiting keys, in the order in which they are started, which is that of their arrival. -/
  ready : List κ := []
  /-- The set of the waiting keys, the same keys as those of `ready`. -/
  queued : SortedSet κ := SortedMap.empty
  /-- The keys of the reconciles in flight. -/
  active : SortedSet κ := SortedMap.empty
  /-- The active keys that are to wait once more, because they were enqueued in the meantime. -/
  dirty : SortedSet κ := SortedMap.empty
  /-- The failures in a row, where there are any. -/
  failures : SortedMap κ Nat := SortedMap.empty
  /-- The times of the recorded retries. -/
  retries : SortedMap κ Instant := SortedMap.empty

namespace Bookkeeping

variable {κ : Type} [KeyOrder κ]

/-- Failures in a row are counted up to here. -/
def maxFailures : Nat := 0xffff_ffff

/-- A key was enqueued: it becomes dirty if it is active, stays where it is if it waits, and else
goes to the end of those that wait. -/
def push (b : Bookkeeping κ) (k : κ) : Bookkeeping κ :=
  if b.active.contains k then { b with dirty := b.dirty.add k }
  else if b.queued.contains k then b
  else { b with ready := b.ready ++ [k], queued := b.queued.add k }

/-- Several keys were enqueued, in this order. -/
def pushAll (b : Bookkeeping κ) (keys : List κ) : Bookkeeping κ := keys.foldl push b

/-- The first of the waiting keys becomes active; none if none waits. -/
def next? (b : Bookkeeping κ) : Option (κ × Bookkeeping κ) :=
  match b.ready with
  | [] => none
  | k :: rest =>
    some (k, { b with ready := rest, queued := b.queued.erase k, active := b.active.add k })

/-- The reconcile of a key is over: the key waits once more if it is dirty, and is idle
otherwise. -/
def finish (b : Bookkeeping κ) (k : κ) : Bookkeeping κ :=
  let idle := { b with active := b.active.erase k, dirty := b.dirty.erase k }
  if b.dirty.contains k then idle.push k else idle

/-- Forgets the failures and the retry of a key, after a success. -/
def settle (b : Bookkeeping κ) (k : κ) : Bookkeeping κ :=
  { b with failures := b.failures.erase k, retries := b.retries.erase k }

/-- Counts one more failure of a key, up to the largest number that is counted. -/
def fail (b : Bookkeeping κ) (k : κ) : Bookkeeping κ :=
  { b with failures := b.failures.insert k (min (b.failures.getD k 0 + 1) maxFailures) }

/-- The failures of a key in a row. -/
def failuresOf (b : Bookkeeping κ) (k : κ) : Nat := b.failures.getD k 0

/-- Records a retry of a key, unless an earlier one is recorded; then there is nothing to be
changed. -/
def schedule? (b : Bookkeeping κ) (k : κ) (time : Instant) : Option (Bookkeeping κ) :=
  match b.retries.get? k with
  | some pending =>
    if pending ≤ time then none else some { b with retries := b.retries.insert k time }
  | none => some { b with retries := b.retries.insert k time }

/-- The retry of a key has come: the key waits, and nothing is recorded for it. -/
def retry (b : Bookkeeping κ) (k : κ) : Bookkeeping κ :=
  { b with retries := b.retries.erase k }.push k

/-! ### Waiting and active keys -/

/-- The first waiting key, and the bookkeeping in which it is active. -/
theorem next?_eq_some {b c : Bookkeeping κ} {k : κ} (h : b.next? = some (k, c)) :
    ∃ rest, b.ready = k :: rest ∧
      c = { b with ready := rest, queued := b.queued.erase k, active := b.active.add k } := by
  unfold next? at h
  split at h
  · cases h
  · rename_i hready
    cases h
    exact ⟨_, hready, rfl⟩

/-- No key becomes active, or stops being so, by being enqueued. -/
@[simp] theorem active_push (b : Bookkeeping κ) (k : κ) : (b.push k).active = b.active := by
  unfold push; split <;> (try split) <;> rfl

/-- The end of a reconcile makes its key inactive and no other. -/
theorem active_finish (b : Bookkeeping κ) (k : κ) :
    (b.finish k).active = b.active.erase k := by
  unfold finish; simp only; split <;> simp

end Bookkeeping

end WorkspaceAccess
