import WorkspaceAccess.Time.Instant

/-!
# Virtual Time

Time goes by only when everything waits. What happens at one instant happens in rounds, until
nothing is left to do at it; then the time is the next one at which something is to be done. A
process is no more than these two functions (`Timeline`), so the same virtual time serves a whole
deployment and a single controller.

Nothing is skipped: the time never moves past an instant at which the process has something to do.
What is to be done at the target of `advance` itself is left undone, so that changes from outside
can still be made at that instant before the process acts on it.

A process could find something to do at one instant for ever, so the rounds at an instant are
limited (`roundLimit`); no process that comes to rest at all needs so many.
-/

namespace WorkspaceAccess

/-- A process in virtual time, with states of type `s`. -/
structure Timeline (s : Type) where
  /-- What happens in a round at an instant. -/
  round : Instant → s → s
  /-- The next time at which there is something to do, seen from an instant; none if there is
  nothing left at all. -/
  next? : Instant → s → Option Instant

namespace Timeline

variable {s : Type}

/-- No more rounds than this are made at one instant. -/
def roundLimit : Nat := 1000000

/-- At most so many rounds at an instant, until there is nothing left to do at it. -/
def rounds (p : Timeline s) (now : Instant) : Nat → s → s
  | 0, state => state
  | n + 1, state =>
    match p.next? now state with
    | some time => if time ≤ now then p.rounds now n (p.round now state) else state
    | none => state

/-- Does what there is to do at an instant. -/
def settle (p : Timeline s) (now : Instant) (state : s) : s := p.rounds now roundLimit state

/-- Lets the time go by from an instant up to a target. What is to be done at the target itself
is left undone. -/
def advance (p : Timeline s) (target now : Instant) (state : s) : s :=
  if now < target then
    let state := p.settle now state
    match p.next? now state with
    | some time => if now < time then p.advance target time state else state
    | none => state
  else state
termination_by target - now
decreasing_by exact Nat.sub_lt_sub_left ‹now < target› ‹now < time›

/-- Lets the time go by until the process has come to a state with some property, or has nothing
left to do: the time and the state then. So many instants are visited at most. -/
def runUntil (p : Timeline s) (stop : s → Bool) : Nat → Instant → s → Instant × s
  | 0, now, state => (now, state)
  | n + 1, now, state =>
    let state := p.settle now state
    if stop state then (now, state)
    else
      match p.next? now state with
      | some time => p.runUntil stop n (max time now) state
      | none => (now, state)

end Timeline

end WorkspaceAccess
