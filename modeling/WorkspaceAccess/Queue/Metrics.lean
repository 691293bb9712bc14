import WorkspaceAccess.Metrics.Histogram

/-!
# Metrics of a Controller

Counters of the reconciles that were started, failed and scheduled for later, and a histogram of how
long they took. A reconcile is counted when it begins, its duration and its failure when it ends,
and a requeue when a retry is recorded; a retry that is not recorded because an earlier one is there
does not count.

The controllers of one program share their metrics and are told apart by a label, so
`QueueMetrics.lines` writes the samples of all of them under each metric. Names and helps are fixed
texts, and so are the bounds of the histogram: they reach from a hundredth of a second to a minute,
since a sweep goes through every workspace.

`WorkspaceAccess.Proofs.Queue.Ledger` proves that these numbers account for what has happened, in
every course of a controller.
-/

namespace WorkspaceAccess

/-- What a controller did so far. The numbers only ever grow. -/
structure QueueMetrics where
  /-- The reconciles that were started. -/
  reconciles : Nat
  /-- The reconciles that failed, those that were cut short included. -/
  failures : Nat
  /-- The keys that were scheduled for a delayed reconcile. -/
  requeues : Nat
  /-- How long the reconciles took, one observation for every end. -/
  durations : DurationHistogram

namespace QueueMetrics

/-- Sweeps go through every workspace, so that the bounds allow for long reconciles. -/
def durationBounds : List DurationBound := [
  ⟨10000000, "0.01"⟩, ⟨100000000, "0.1"⟩, ⟨500000000, "0.5"⟩, ⟨1000000000, "1.0"⟩,
  ⟨5000000000, "5.0"⟩, ⟨15000000000, "15.0"⟩, ⟨60000000000, "60.0"⟩]

/-- No reconcile so far. -/
def zero : QueueMetrics := ⟨0, 0, 0, .empty durationBounds⟩

instance : Inhabited QueueMetrics := ⟨zero⟩

/-- A reconcile was started. -/
def start (m : QueueMetrics) : QueueMetrics := { m with reconciles := m.reconciles + 1 }

/-- A reconcile ended after so many nanoseconds: its duration is observed, and its failure counted
if it was one. -/
def finish (m : QueueMetrics) (duration : Nat) (failed : Bool) : QueueMetrics :=
  { m with
    durations := m.durations.observe duration
    failures := if failed then m.failures + 1 else m.failures }

/-- A key was scheduled for a delayed reconcile. -/
def requeue (m : QueueMetrics) : QueueMetrics := { m with requeues := m.requeues + 1 }

/-- The lines of the metrics of controllers, each under its name. -/
def lines (namespacing : String) (showSum : Nat → String) (series : List (String × QueueMetrics)) :
    List String :=
  let labeled {α : Type} (f : QueueMetrics → α) : List (Exposition.Labels × α) :=
    series.map fun s => ([("controller", s.1)], f s.2)
  Exposition.counter (namespacing ++ "reconciles") "Total number of reconciles started"
    (labeled (·.reconciles)) ++
  Exposition.counter (namespacing ++ "failures") "Total number of reconciles that returned an error"
    (labeled (·.failures)) ++
  Exposition.counter (namespacing ++ "requeues")
    "Total number of keys scheduled for a delayed reconcile" (labeled (·.requeues)) ++
  DurationHistogram.lines (namespacing ++ "duration") "Histogram of reconcile durations" showSum
    (labeled (·.durations))

end QueueMetrics

end WorkspaceAccess
