/-!
# The Text Form of Metrics

Metrics are shown as lines of text: for every metric a line of help, a line with its type, one with
its unit if it has one, and then a line for every sample. A sample may carry labels. After the last
metric stands `# EOF`.

This module has the lines that all metrics share. Which metrics there are is said where they are
counted: by the queue (`WorkspaceAccess.Queue.Metrics`), by the sweeps
(`WorkspaceAccess.Access.Metrics`), and as histograms of durations
(`WorkspaceAccess.Metrics.Histogram`). A counter is told apart from a gauge by its type and by the
end of the names of its samples, which readers of the text rely on.
-/

namespace WorkspaceAccess

namespace Exposition

/-- Labels of a sample, as names and values. -/
abbrev Labels := List (String × String)

/-- Labels between braces; no braces without labels. Values are written as they are, since the
labels that are used have none that would need quoting. -/
def labelText (labels : Labels) : String :=
  if labels.isEmpty then ""
  else
    "\x7b" ++ ",".intercalate (labels.map fun l => l.1 ++ "=\"" ++ l.2 ++ "\"") ++ "\x7d"

/-- The line of a sample. -/
def sample (name : String) (labels : Labels) (value : String) : String :=
  name ++ labelText labels ++ " " ++ value

/-- The lines about a metric, without its samples. The help becomes a sentence. -/
def header (name help type : String) : List String :=
  ["# HELP " ++ name ++ " " ++ help ++ ".", "# TYPE " ++ name ++ " " ++ type]

/-- A metric that only grows, with the value for every set of labels. -/
def counter (name help : String) (series : List (Labels × Nat)) : List String :=
  header name help "counter" ++
    series.map fun s => sample (name ++ "_total") s.1 (toString s.2)

/-- A metric that may fall, with the value for every set of labels. -/
def gauge (name help : String) (series : List (Labels × Nat)) : List String :=
  header name help "gauge" ++ series.map fun s => sample name s.1 (toString s.2)

/-- The last line, by which a reader knows that nothing is missing. -/
def endLine : String := "# EOF"

end Exposition

end WorkspaceAccess
