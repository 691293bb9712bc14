/-!
# Phases of a Workspace

The lifecycle phase of a remote workspace, as it is reported by the remote control plane and
recorded on the project. The control plane may come to report phases that are not known here; such a
phase is kept with its text (`Phase.unknown`), so that recording it loses nothing, and it is treated
as one that will still change.

A workspace that has reported no phase yet is pending, and so is one that reports an empty text. Of
the known phases two are final: a ready workspace can be used, and a failed one is left to an
operator.

## Main results

* `Phase.text_ofText`: reading a text and writing it again gives the text back, unless it is empty.
* `Phase.ofText_eq_ready_iff`, `Phase.ofText_eq_failed_iff`: only the one text that writes a final
  phase is read as it.
* `Phase.ofText_text_ofText`: a phase that was read reads back from its text, so recording a phase
  and reading the record is the same as seeing the phase.
-/

namespace WorkspaceAccess

/-- The lifecycle phase of a remote workspace. -/
inductive Phase where
  /-- The workspace has not reported a phase yet. -/
  | pending
  /-- A place for the workspace is being looked for. -/
  | scheduling
  /-- The workspace is being set up. -/
  | initializing
  /-- The workspace can be used. -/
  | ready
  /-- The workspace cannot be reached for now. -/
  | unavailable
  /-- The workspace needs an operator. -/
  | failed
  /-- A phase that this controller does not know. -/
  | unknown (text : String)
  deriving DecidableEq, Inhabited

namespace Phase

/-- How a phase is written, in annotations and by the control plane. -/
def text : Phase → String
  | pending => "Pending"
  | scheduling => "Scheduling"
  | initializing => "Initializing"
  | ready => "Ready"
  | unavailable => "Unavailable"
  | failed => "Failed"
  | unknown text => text

/-- The phase that a text writes; the empty text is a phase not yet reported. -/
def ofText : String → Phase
  | "" | "Pending" => pending
  | "Scheduling" => scheduling
  | "Initializing" => initializing
  | "Ready" => ready
  | "Unavailable" => unavailable
  | "Failed" => failed
  | other => unknown other

/-- The phase that a text writes, or that of a workspace that has reported none. -/
def ofText? : Option String → Phase
  | none => pending
  | some text => ofText text

/-- The name of the kind of phase. -/
def kind : Phase → String
  | unknown _ => "Unknown"
  | phase => phase.text

/-- The workspace can be used: its address leads to it, and its binding can be written. -/
def isReady (p : Phase) : Bool := p == ready

/-- The phase is not left without an operator, so that it is not polled. A ready workspace is not
polled either, but for another reason. -/
def isTerminal (p : Phase) : Bool := p == failed

/-- Reading a text and writing it again gives the text back, unless it is empty. -/
theorem text_ofText (t : String) : (ofText t).text = if t = "" then "Pending" else t := by
  unfold ofText
  split <;> simp_all [text]

/-- Only the text `Ready` writes the ready phase. -/
theorem ofText_eq_ready_iff {t : String} : ofText t = ready ↔ t = "Ready" := by
  unfold ofText
  split <;> simp_all

/-- Only the text `Failed` writes the failed phase. -/
theorem ofText_eq_failed_iff {t : String} : ofText t = failed ↔ t = "Failed" := by
  unfold ofText
  split <;> simp_all

/-- A phase that was read reads back from its text. -/
theorem ofText_text_ofText (t : String) : ofText (ofText t).text = ofText t := by
  rw [text_ofText]
  split
  · next h => subst h; rfl
  · rfl

end Phase

end WorkspaceAccess
