import WorkspaceAccess.SortedMap

/-!
# Labels and Annotations

Objects of an API carry labels, by which they are selected, and annotations, by which they are
described. Both are finite maps from keys to values, kept sorted by their keys so that two maps with
the same entries are equal.

The controllers mark their objects and exchange information by a few fixed keys, which this module
collects: the label of managed objects, the annotations that describe a workspace on its project,
the ones that record the outcome of a sweep on a staff member, and the ones of an access binding.
Each key is named in one place and by what it means, so that the one who writes an annotation and
the one who reads it cannot disagree about its spelling.

The record of a sweep plays a part of its own. A sweep that records its outcome changes the object
that triggered it, and the watch reports this change like any other. `withoutSync` is what remains
of the annotations when the record is left out; the index of the staff compares objects by it, so
that a sweep does not trigger the next one.
-/

namespace WorkspaceAccess

/-- Labels or annotations of an object, a finite map from keys to values. -/
abbrev Annotations := SortedMap String String

namespace Annotations

/-- The label that marks objects of this controller, and by which they can be selected. -/
def managedByLabel : String := "app.kubernetes.io/managed-by"

/-- The annotation that marks objects of this controller. It says the same as the label, to those
who read annotations. -/
def managedBy : String := "maintainer-d.cncf.io/managed-by"

/-- The value of both marks: what the controller calls itself. -/
def operatorId : String := "maintainerd-access-controller"

/-! ### On a project -/

/-- The name of the project's workspace. -/
def workspaceName : String := "maintainer-d.cncf.io/workspace-name"

/-- The address of the project's workspace. -/
def workspaceUrl : String := "maintainer-d.cncf.io/workspace-url"

/-- The phase of the project's workspace. -/
def workspacePhase : String := "maintainer-d.cncf.io/workspace-phase"

/-! ### On a staff member and on a binding -/

/-- When the last sweep was recorded, or when a binding was last written. -/
def lastSynced : String := "maintainer-d.cncf.io/last-synced"

/-- How the last sweep ended, in words (`SyncStatus.text`). -/
def syncStatus : String := "maintainer-d.cncf.io/sync-status"

/-- How many workspaces the last sweep updated, in decimal digits. -/
def workspaceCount : String := "maintainer-d.cncf.io/workspace-count"

/-- How many subjects a binding has, in decimal digits. -/
def staffCount : String := "maintainer-d.cncf.io/staff-count"

/-- The namespace that the roster of a binding comes from. -/
def sourceNamespace : String := "maintainer-d.cncf.io/source-namespace"

/-! ### On a workspace -/

/-- The project that a workspace was requested for. A workspace without this annotation belongs to
no project yet. -/
def project : String := "maintainer-d.cncf.io/project"

/-- The annotations that record a sweep on the staff member who triggered it: what a sweep itself
writes onto an object that is watched. -/
def syncKeys : List String := [lastSynced, syncStatus, workspaceCount]

/-- The annotations other than the record of a sweep, which is the part of them that a sweep does
not change. -/
def withoutSync (annotations : Annotations) : Annotations :=
  annotations.filter fun k _ => !syncKeys.contains k

/-- The labels mark an object of this controller. Another value under the same key marks an object
of somebody else. -/
def isManaged (labels : Annotations) : Bool := labels.get? managedByLabel == some operatorId

/-- The labels of a new object of this controller, which are merged into those that it has. -/
def managedLabels : Annotations := SortedMap.empty.insert managedByLabel operatorId

end Annotations

end WorkspaceAccess
