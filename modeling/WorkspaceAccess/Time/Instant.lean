import WorkspaceAccess.Time.Timestamp

/-!
# Clocks

Two clocks are read: one that measures how time goes by, from an arbitrary start, and the one of the
calendar. Deadlines and delays are measured by the first, which never jumps; what is written into
objects comes from the second, since it has to mean something to others. The two are never compared
with each other.
-/

namespace WorkspaceAccess

/-- A point in time, in nanoseconds from an arbitrary start. It is a plain number, so that delays
are added to it. -/
abbrev Instant := Nat

/-- What the two clocks show at one moment. -/
structure Clock where
  /-- The time by which deadlines are measured. -/
  instant : Instant
  /-- The time of the calendar. -/
  wall : Timestamp

end WorkspaceAccess
