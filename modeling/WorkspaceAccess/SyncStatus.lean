/-!
# Outcomes of a Sweep

The outcome of a sweep, as it is recorded on the staff member that triggered it. There are three,
and they are told apart by two counts: every workspace was updated, some were, or none was though
there were some. A sweep that found no workspace at all has updated all of them.

The texts are part of an interface, since people and other programs read the annotation;
`SyncStatus.parse?` reads exactly the three texts and no variants of them.

## Main results

* `SyncStatus.parse?_text`: the text of a status reads back.
* `SyncStatus.parse?_eq_some_iff`: and only such texts are read, each as the status that it writes.
-/

namespace WorkspaceAccess

/-- The outcome of a sweep, in three degrees. -/
inductive SyncStatus where
  /-- The bindings of all workspaces were updated. -/
  | success
  /-- Some bindings were updated, but not all. -/
  | partly
  /-- No binding could be updated. -/
  | error
  deriving DecidableEq

namespace SyncStatus

/-- The outcome of a sweep in which `failed` of `total` workspaces were not updated. Without a
failure it is a success, also when there were no workspaces. -/
def ofCounts (failed total : Nat) : SyncStatus :=
  if failed = 0 then success else if failed < total then partly else error

/-- How a status is written. -/
def text : SyncStatus → String
  | success => "success"
  | partly => "partial"
  | error => "error"

/-- The status that a text writes; any other text writes none. -/
def parse? : String → Option SyncStatus
  | "success" => some success
  | "partial" => some partly
  | "error" => some error
  | _ => none

/-- What is said about a text that is no status. -/
def invalidMessage (text : String) : String := "invalid sync status: " ++ text

/-- The text of a status reads back. -/
theorem parse?_text (s : SyncStatus) : parse? s.text = some s := by cases s <;> rfl

/-- A text is read as a status just when it is the text of that status. -/
theorem parse?_eq_some_iff {t : String} {s : SyncStatus} : parse? t = some s ↔ t = s.text := by
  constructor
  · unfold parse?
    split <;> simp only [Option.some.injEq, reduceCtorEq, false_implies] <;> rintro rfl <;> rfl
  · rintro rfl; exact parse?_text s

end SyncStatus

end WorkspaceAccess
