import WorkspaceAccess.Time.Span

/-!
# Exponential Backoff

A key whose run has failed is tried again after a delay. The delay starts at a base, doubles with
every further failure in a row, and is cut off at a maximum, so that a fault that passes is noticed
soon and one that stays does not keep the workers busy.

The doubling stops after `maxDoublings` steps, and `Span.scale` stops at the longest span there is,
so the delay is defined for every base and every count. How many failures in a row there were is
counted by the queue, and a single success starts the count anew.

`WorkspaceAccess.Proofs.Queue.Backoff` proves that the delay is the capped product of unbounded
arithmetic for every base and every count, that it never decreases when the count grows, and that it
lies between its bounds.
-/

namespace WorkspaceAccess

/-- How the delay before the next attempt grows: where it starts, and where it ends. -/
structure Backoff where
  /-- The delay after the first failure, from which all others are doubled. -/
  base : Span
  /-- No delay is longer; a base that is longer is cut off too. -/
  max : Span
  deriving DecidableEq

namespace Backoff

/-- The delay doubles at most this often, which keeps the power of two small. -/
def maxDoublings : Nat := 16

/-- How often the delay has doubled after a number of failures in a row. The first failure does not
double it, nor does none at all. -/
def doublings (failures : Nat) : Nat := min (failures - 1) maxDoublings

/-- The delay after a number of failures in a row: the base, doubled with every failure after the
first, and never more than the maximum. -/
def delay (b : Backoff) (failures : Nat) : Span :=
  min (b.base.scale (Nat.pow 2 (doublings failures))) b.max

/-- Five seconds at first, five minutes at most. -/
def standard : Backoff := ⟨Span.ofSeconds 5, Span.ofSeconds 300⟩

instance : Inhabited Backoff := ⟨standard⟩

end Backoff

end WorkspaceAccess
