import WorkspaceAccess.Queue.Controller

/-!
# What Happens to the Keys of a Work Queue

A controller keeps no record of its past: of all that happened to a key only what is needed next is
left in its state. To say what a controller owes to its past, the courses that are proved about
carry a log beside the controller. It holds, for every key, when it was enqueued, when it was taken
from the inbox, when its retry was due, when a reconcile of it was started, when that ended, and
when the controller took up the end, with the time of the retry that it recorded then
(`QueueEvent`).

The newest event stands first, so that what happened before an event is the rest of the log behind
it, and what happens next is consed to it. A statement about one key is one about the events of that
key (`QueueLog.about`), whatever happens to other ones in between; a statement about the order among
keys is one about the keys of some kind of event (`QueueLog.keysOf`). Both are lists, and an
invariant of a controller is stated by a function from such a list.

Many statements have the form that every event of some kind only happens after a certain past. Such
a statement is a *law* (`QueueLog.Always`): it relates an event to what happened before it, and it
is proved along a history by looking at the newest event alone.

## Main results

* `about_append`, `keysOf_append`: what happened to a key, and to which keys something happened, may
  be read off the parts of a log.
* `lately_cons`: what has happened since the newest start of a reconcile begins anew with a start.
* `countP_about`: an event happens to a key as often as the key is among those to which it happens,
  which is how the counts of all keys and of a single one come together.
* `always_cons`, `always_about_cons`: a law is kept by one event more, of the key itself if that
  event obeys it and of any other key for nothing.
-/

namespace WorkspaceAccess

/-- What can happen to a key of a work queue. -/
inductive QueueEvent (ε : Type) where
  /-- The key is enqueued from outside. -/
  | enqueued
  /-- The key is taken from the inbox. -/
  | received
  /-- Its alarm rings when the recorded retry, for this time, is due. -/
  | retried (time : Instant)
  /-- A reconcile of the key is started. -/
  | started
  /-- A reconcile of the key ends, with its outcome. -/
  | ended (outcome : Outcome ε)
  /-- The end of its reconcile is taken up, and a retry is recorded for a time or none is. -/
  | completed (outcome : Outcome ε) (new? : Option Instant)

namespace QueueEvent

variable {ε : Type}

/-- The key was enqueued from outside, which leaves it in the inbox for the time being. -/
def isEnqueued : QueueEvent ε → Bool
  | enqueued => true
  | _ => false

/-- The key was taken from the inbox, and with that it was asked for. -/
def isReceived : QueueEvent ε → Bool
  | received => true
  | _ => false

/-- The retry of the key was due when its alarm rang, and with that the key was asked for. -/
def isRetried : QueueEvent ε → Bool
  | retried _ => true
  | _ => false

/-- A reconcile was started, whether or not it has begun by now. -/
def isStarted : QueueEvent ε → Bool
  | started => true
  | _ => false

/-- A reconcile ended, and the controller may not have taken that up yet. -/
def isEnded : QueueEvent ε → Bool
  | ended _ => true
  | _ => false

/-- The end of a reconcile was taken up, and its outcome has led to what it leads to. -/
def isCompleted : QueueEvent ε → Bool
  | completed .. => true
  | _ => false

/-- The end of a reconcile was taken up, and a retry was recorded then. -/
def isRecorded : QueueEvent ε → Bool
  | completed _ (some _) => true
  | _ => false

/-- Something asked for a reconcile: the key was taken from the inbox, or its retry was due. -/
def isWakeUp (e : QueueEvent ε) : Bool := e.isReceived || e.isRetried

end QueueEvent

/-- What happened to the keys, the newest event first. -/
abbrev QueueLog (κ ε : Type) := List (κ × QueueEvent ε)

namespace QueueLog

variable {κ ε : Type} [KeyOrder κ]

/-- What happened to one key, the newest event first. -/
def about (k : κ) (log : QueueLog κ ε) : List (QueueEvent ε) :=
  log.filterMap fun e => if KeyOrder.compare e.1 k = .eq then some e.2 else none

/-- What happens to a key is the newest of what happened to it. -/
@[simp] theorem about_cons_self (k : κ) (e : QueueEvent ε) (log : QueueLog κ ε) :
    about k ((k, e) :: log) = e :: about k log := by
  simp [about, KeyOrder.compare_self]

/-- What happens to another key leaves what happened to a key as it was. -/
theorem about_cons_of_ne {k j : κ} (h : j ≠ k) (e : QueueEvent ε) (log : QueueLog κ ε) :
    about k ((j, e) :: log) = about k log := by
  have hc : KeyOrder.compare j k ≠ .eq := fun hc => h (KeyOrder.compare_eq_iff.1 hc)
  simp [about, hc]

/-- What happened to a key, in a log that goes on, is what happened later and then what was
before. -/
theorem about_append (k : κ) (later log : QueueLog κ ε) :
    about k (later ++ log) = about k later ++ about k log := List.filterMap_append

/-- Whatever happens to a key happens to some key. -/
theorem mem_of_about {k : κ} {log : QueueLog κ ε} {e : QueueEvent ε} (h : e ∈ about k log) :
    (k, e) ∈ log := by
  obtain ⟨⟨j, f⟩, hmem, hsome⟩ := List.mem_filterMap.mp h
  split at hsome
  · rename_i hj
    obtain rfl := Option.some.inj hsome
    rw [← KeyOrder.compare_eq_iff.mp hj]
    exact hmem
  · cases hsome

/-- Nothing happens to a key when all that happens does to other ones. -/
theorem about_eq_nil {k : κ} {log : QueueLog κ ε} (h : ∀ e ∈ log, e.1 ≠ k) : about k log = [] :=
  List.eq_nil_iff_forall_not_mem.mpr fun _ he => h _ (mem_of_about he) rfl

/-- The keys to which events of some kind happened, the newest first. -/
def keysOf (p : QueueEvent ε → Bool) (log : QueueLog κ ε) : List κ :=
  (log.filter fun e => p e.2).map (·.1)

/-- Since the newest start of a reconcile an event of some kind has happened. Before the first start
all events count. -/
def lately (p : QueueEvent ε → Bool) (events : List (QueueEvent ε)) : Bool :=
  (events.takeWhile fun e => !e.isStarted).any p

/-- What has happened lately begins anew with every start. -/
theorem lately_cons (p : QueueEvent ε → Bool) (e : QueueEvent ε) (earlier : List (QueueEvent ε)) :
    lately p (e :: earlier) = (!e.isStarted && (p e || lately p earlier)) := by
  rw [lately, List.takeWhile_cons]
  cases e.isStarted <;> simp [lately]

/-- A law that every event obeys, seen together with what happened before it. It is stated by a
split of the list, so that it says the same of each event, however long ago it was. -/
def Always (law : QueueEvent ε → List (QueueEvent ε) → Prop) (events : List (QueueEvent ε)) :
    Prop :=
  ∀ later e earlier, events = later ++ e :: earlier → law e earlier

omit [KeyOrder κ] in
/-- A key is among those to which events of a kind happened when the newest event is of that
kind. -/
theorem keysOf_cons (p : QueueEvent ε → Bool) (k : κ) (e : QueueEvent ε) (log : QueueLog κ ε) :
    keysOf p ((k, e) :: log) = if p e = true then k :: keysOf p log else keysOf p log := by
  rw [keysOf, List.filter_cons]
  split <;> rfl

omit [KeyOrder κ] in
/-- The keys of a log that goes on are those of its later part and then those of what was before. -/
theorem keysOf_append (p : QueueEvent ε → Bool) (later earlier : QueueLog κ ε) :
    keysOf p (later ++ earlier) = keysOf p later ++ keysOf p earlier := by
  rw [keysOf, List.filter_append, List.map_append]
  rfl

/-- An event happens to a key as often as the key is among those to which it happens. -/
theorem countP_about (p : QueueEvent ε → Bool) (k : κ) (log : QueueLog κ ε) :
    (about k log).countP p = (keysOf p log).countP fun j => KeyOrder.compare j k == .eq := by
  induction log with
  | nil => rfl
  | cons entry log ih =>
    obtain ⟨j, e⟩ := entry
    have hcompare : (KeyOrder.compare j k == .eq) = true ↔ j = k :=
      beq_iff_eq.trans KeyOrder.compare_eq_iff
    rw [keysOf_cons]
    by_cases hj : j = k
    · rw [hj, about_cons_self, List.countP_cons, ih]
      split
      · rw [List.countP_cons, if_pos (hj ▸ hcompare.mpr hj)]
      · rfl
    · rw [about_cons_of_ne hj, ih]
      split
      · rw [List.countP_cons, if_neg (mt hcompare.mp hj), Nat.add_zero]
      · rfl

variable {law : QueueEvent ε → List (QueueEvent ε) → Prop}

/-- Every law is obeyed when nothing has happened, as there is nothing to judge. -/
theorem always_nil : Always law [] := by
  intro later e earlier h
  simp at h

/-- A law is kept by one event more that obeys it. -/
theorem always_cons {e : QueueEvent ε} {earlier : List (QueueEvent ε)} :
    Always law (e :: earlier) ↔ law e earlier ∧ Always law earlier := by
  constructor
  · intro h
    refine ⟨h [] e earlier rfl, ?_⟩
    intro later f old hsplit
    exact h (e :: later) f old (by rw [hsplit]; rfl)
  · rintro ⟨he, h⟩ later f old hsplit
    cases later with
    | nil =>
      obtain ⟨rfl, rfl⟩ := List.cons.inj hsplit
      exact he
    | cons first later =>
      obtain ⟨-, hrest⟩ := List.cons.inj hsplit
      exact h later f old hrest

/-- Whatever does not depend on an event is not changed by it, whether it happens to the key that is
looked at or to another one. -/
theorem apply_about_cons {β : Type} {f : List (QueueEvent ε) → β} {e : QueueEvent ε}
    (h : ∀ earlier, f (e :: earlier) = f earlier) (j k : κ) (log : QueueLog κ ε) :
    f (about k ((j, e) :: log)) = f (about k log) := by
  by_cases hj : j = k
  · rw [hj, about_cons_self]
    exact h _
  · rw [about_cons_of_ne hj]

/-- What has happened lately is not changed by an event of another kind. -/
theorem lately_about_cons {p : QueueEvent ε → Bool} {e : QueueEvent ε}
    (hstart : e.isStarted = false) (hp : p e = false) (j k : κ) (log : QueueLog κ ε) :
    lately p (about k ((j, e) :: log)) = lately p (about k log) := by
  refine apply_about_cons (fun earlier => ?_) j k log
  rw [lately_cons, hstart, hp]
  rfl

/-- A law about the events of one key is kept by an event of any key. -/
theorem always_about_cons {j k : κ} {e : QueueEvent ε} {log : QueueLog κ ε}
    (h : Always law (about k log)) (he : j = k → law e (about k log)) :
    Always law (about k ((j, e) :: log)) := by
  by_cases hj : j = k
  · rw [hj, about_cons_self]
    exact always_cons.mpr ⟨he hj, h⟩
  · rw [about_cons_of_ne hj]
    exact h

end QueueLog

end WorkspaceAccess
