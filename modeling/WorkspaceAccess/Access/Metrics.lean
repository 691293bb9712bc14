import WorkspaceAccess.Metrics.Exposition
import WorkspaceAccess.Reconcile.Call

/-!
# Metrics of the Sweeps

The controller counts what its sweeps do: how many of them got past their reads, how many bindings
they wrote, and how many they could not write. A fourth number, the subjects of the most recent
sweep, is a gauge and not a counter; it is replaced by every sweep that reports.

A sweep reports its counts once, after its last write and before it records its outcome on a staff
member. A sweep that fails in one of its reads reports nothing, so such a sweep leaves all four
numbers as they are, while a sweep that wrote its bindings and then fails to record its outcome has
been counted. `WorkspaceAccess.Proofs.Access.Conservation` relates the counters to the writes that
sweeps have made, also while several sweeps are under way.

`SweepMetrics.lines` writes the numbers in the text form in which they are collected.
-/

namespace WorkspaceAccess

/-- What the sweeps did so far. All four numbers are zero when the controller starts; three of them
only ever grow. -/
structure SweepMetrics where
  /-- The sweeps that got past their reads and reported their counts. -/
  sweeps : Nat := 0
  /-- The bindings that were written, by all sweeps together. -/
  updated : Nat := 0
  /-- The bindings that could not be written, those that were abandoned at a deadline included. -/
  failed : Nat := 0
  /-- The subjects of the sweep that reported last. -/
  subjects : Nat := 0
  deriving DecidableEq, Inhabited

namespace SweepMetrics

/-- Adds the counts of one sweep: the sweep is counted, its writes and failures are added up, and
its subjects replace those of the sweep before. -/
def record (m : SweepMetrics) (c : SweepCounts) : SweepMetrics :=
  ⟨m.sweeps + 1, m.updated + c.updated, m.failed + c.failed, c.subjects⟩

/-- The lines of the metrics, every metric under its name with the given prefix in front of it. -/
def lines (namespacing : String) (m : SweepMetrics) : List String :=
  Exposition.counter (namespacing ++ "sweeps") "Total number of access sweeps"
    [([], m.sweeps)] ++
  Exposition.counter (namespacing ++ "workspaces_updated")
    "Total number of workspace access bindings written" [([], m.updated)] ++
  Exposition.counter (namespacing ++ "workspaces_failed")
    "Total number of workspace access bindings that could not be written" [([], m.failed)] ++
  Exposition.gauge (namespacing ++ "subjects")
    "Number of subjects granted access by the most recent sweep" [([], m.subjects)]

end SweepMetrics

end WorkspaceAccess
