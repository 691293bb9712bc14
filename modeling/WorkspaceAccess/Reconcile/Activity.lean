import WorkspaceAccess.Reconcile.Call

/-!
# What a Reconcile Does

A reconcile makes its calls one at a time and decides by their answers what to do next. An
`Activity` is such a course of calls: a tree whose inner nodes are the calls and whose branches are
their answers. Between two calls nothing of the outside world is seen or changed, so the calls are
the atomic steps in which several reconciles interleave.

A call may be given a time up to which it is waited for. `Activity.within` gives every call of an
activity the same time, and the activity ends without a result when it passes. A limit inside an
activity keeps its meaning if it is the earlier of the two. A call that is given up has had no
effect, since a call takes effect when it is over and not when it is made.

A `Host` is an outside world: it says how long a call takes, what it is answered and what becomes of
the world. `Activity.run` is the course of an activity that is alone in it. How activities share a
world is said in `WorkspaceAccess.Reconcile.Progress`.

## Main results

* `Activity.run_bind`: the run of a composed activity is that of its first part, and from where this
  one has ended, in the world and in time, that of the second. The laws of sweeps and of the
  lifecycle take their runs apart by it.
-/

namespace WorkspaceAccess

/-- A course of calls that ends with a result, as a tree that branches over the answers. -/
inductive Activity (σ : Type) (α : Type) where
  /-- The end, with its result. -/
  | done (result : α)
  /-- Looks at both clocks, and goes on by what they show. -/
  | look (next : Clock → Activity σ α)
  /-- Adds to the metrics of the sweeps. -/
  | report (counts : SweepCounts) (next : Activity σ α)
  /-- Waits for the answer of a call. -/
  | await (call : Call σ) (next : call.Answer → Activity σ α)
  /-- Waits for the answer of a call up to a time, and goes on without it afterwards. The call has
  then had no effect. -/
  | awaitUntil (limit : Instant) (call : Call σ) (next : call.Answer → Activity σ α)
    (late : Activity σ α)

namespace Activity

variable {σ ω α β : Type}

/-- Goes on with the result of an activity: the second one starts where and when the first one
ends. -/
def bind : Activity σ α → (α → Activity σ β) → Activity σ β
  | done a, f => f a
  | look next, f => look fun c => (next c).bind f
  | report counts next, f => report counts (next.bind f)
  | await call next, f => await call fun r => (next r).bind f
  | awaitUntil limit call next late, f =>
    awaitUntil limit call (fun r => (next r).bind f) (late.bind f)

/-- Changes the result of an activity and none of its calls. -/
def map (f : α → β) (a : Activity σ α) : Activity σ β := a.bind fun x => done (f x)

/-- The activity, waiting for its calls only up to a time: no result when it passes. An inner limit
that is later is replaced by this one. -/
def within (limit : Instant) : Activity σ α → Activity σ (Option α)
  | done a => done (some a)
  | look next => look fun c => (next c).within limit
  | report counts next => report counts (next.within limit)
  | await call next => awaitUntil limit call (fun r => (next r).within limit) (done none)
  | awaitUntil inner call next late =>
    if inner ≤ limit then
      awaitUntil inner call (fun r => (next r).within limit) (late.within limit)
    else awaitUntil limit call (fun r => (next r).within limit) (done none)

/-- Goes on with a success, and ends with a failure. -/
def andThen {ε : Type} (a : Activity σ (Except ε α)) (f : α → Activity σ (Except ε β)) :
    Activity σ (Except ε β) :=
  a.bind fun
    | .ok x => f x
    | .error e => done (.error e)

end Activity

/-- An outside world of type `ω` and its sessions, of type `σ`. -/
structure Host (σ ω : Type) where
  /-- How long a call takes, in nanoseconds, which may depend on the world at the time at which it
  is made. -/
  delay : ω → Call σ → Nat
  /-- What a call is answered when its delay is over, and the world afterwards. -/
  answer : (call : Call σ) → Clock → ω → call.Answer × ω
  /-- The world after the counts of a sweep were added to the metrics. -/
  report : SweepCounts → ω → ω
  /-- The time of the calendar at a point in time. -/
  wall : Instant → Timestamp

/-- The end of a run. -/
structure Ended (ω α : Type) where
  /-- The result of the activity. -/
  result : α
  /-- The world at the end. -/
  world : ω
  /-- The time of the end. -/
  instant : Instant

namespace Host

variable {σ ω : Type}

/-- The clocks at a point in time. -/
def clock (host : Host σ ω) (now : Instant) : Clock := ⟨now, host.wall now⟩

/-- A call that starts now is answered in time: it takes no time at all, or it is over at the limit.
A call without delay is answered even when the limit has passed. -/
def inTime (host : Host σ ω) (world : ω) (call : Call σ) (now limit : Instant) : Bool :=
  host.delay world call == 0 || now + host.delay world call ≤ limit

end Host

namespace Activity

variable {σ ω α β : Type}

/-- The run of an activity that is alone in the world, from a point in time. A call has its effect
at the end of its delay, and a wait that comes to its limit ends there. -/
def run (host : Host σ ω) : Activity σ α → ω → Instant → Ended ω α
  | done a, world, now => ⟨a, world, now⟩
  | look next, world, now => (next (host.clock now)).run host world now
  | report counts next, world, now => next.run host (host.report counts world) now
  | await call next, world, now =>
    let now := now + host.delay world call
    let (r, world) := host.answer call (host.clock now) world
    (next r).run host world now
  | awaitUntil limit call next late, world, now =>
    if host.inTime world call now limit then
      let now := now + host.delay world call
      let (r, world) := host.answer call (host.clock now) world
      (next r).run host world now
    else late.run host world (max now limit)

/-- A composed activity runs through its first part and then, from the world and the time of its
end, through the part that belongs to its result. -/
theorem run_bind (host : Host σ ω) (a : Activity σ α) (f : α → Activity σ β) (world : ω)
    (now : Instant) :
    (a.bind f).run host world now =
      let e := a.run host world now
      (f e.result).run host e.world e.instant := by
  induction a generalizing world now with
  | done _ => rfl
  | look _ ih => exact ih _ _ _
  | report _ _ ih => exact ih _ _
  | await _ _ ih => exact ih _ _ _
  | awaitUntil limit call _ _ ih ihLate =>
    simp only [bind, run]
    split
    · exact ih _ _ _
    · exact ihLate _ _

end Activity

end WorkspaceAccess
