import WorkspaceAccess.Metrics.Exposition

/-!
# Histograms of Durations

A histogram counts how many durations were at most as long as each of its bounds, and adds the
durations up. The counts are cumulative: a duration counts in every bucket whose bound it does not
exceed, and all durations count in the last bucket, which has no bound.

Durations are counted in nanoseconds and shown in seconds. The text of a bound is kept beside its
number, because a bound is shown as it was given and not as a division would write it; how the sum
is shown is left to the caller for the same reason.

## Main results

* `DurationHistogram.count_observe`: every observation is counted once, whatever its length is. The
  queue observes the duration of a run when the run ends, so the count of the histogram is that of
  the runs that have ended.
-/

namespace WorkspaceAccess

/-- The bound of a bucket, in nanoseconds, and how it is written, in seconds. -/
structure DurationBound where
  /-- The bound as a number of nanoseconds. -/
  nanos : Nat
  /-- The bound in seconds, as it is shown. -/
  text : String

/-- How many durations were observed, and how long they were. -/
structure DurationHistogram where
  /-- For every bound, the durations that are at most as long. -/
  buckets : List (DurationBound × Nat)
  /-- The number of all durations, those above every bound included. -/
  count : Nat
  /-- The sum of all observations, in nanoseconds. -/
  sum : Nat

namespace DurationHistogram

/-- A histogram with these bounds and no observation. -/
def empty (bounds : List DurationBound) : DurationHistogram := ⟨bounds.map (·, 0), 0, 0⟩

/-- Adds a duration, in nanoseconds, to every bucket whose bound it does not exceed, to the count
and to the sum. -/
def observe (h : DurationHistogram) (duration : Nat) : DurationHistogram where
  buckets := h.buckets.map fun b => if duration ≤ b.1.nanos then (b.1, b.2 + 1) else b
  count := h.count + 1
  sum := h.sum + duration

/-- Every observation is counted once, whatever its length is. -/
@[simp] theorem count_observe (h : DurationHistogram) (duration : Nat) :
    (h.observe duration).count = h.count + 1 := rfl

/-- The lines of a histogram for every set of labels, with the sums written as asked for. The bucket
without a bound comes last and repeats the count. -/
def lines (name help : String) (showSum : Nat → String)
    (series : List (Exposition.Labels × DurationHistogram)) : List String :=
  let name := name ++ "_seconds"
  Exposition.header name help "histogram" ++ ["# UNIT " ++ name ++ " seconds"] ++
    series.flatMap fun s =>
      [Exposition.sample (name ++ "_sum") s.1 (showSum s.2.sum),
        Exposition.sample (name ++ "_count") s.1 (toString s.2.count)] ++
      (s.2.buckets.map fun b => Exposition.sample (name ++ "_bucket")
        (("le", b.1.text) :: s.1) (toString b.2)) ++
      [Exposition.sample (name ++ "_bucket") (("le", "+Inf") :: s.1) (toString s.2.count)]

end DurationHistogram

end WorkspaceAccess
