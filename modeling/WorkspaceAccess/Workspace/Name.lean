import WorkspaceAccess.Text.Blank

/-!
# Workspace Names

The name of a project's workspace is a DNS label derived from the name of the project: lower case
letters, digits and dashes, at most 63 of them, with no dash at either end. The derivation is a
function, so that every attempt to create the workspace addresses the same one, after any
interruption and without anything having been recorded.

The derivation is not injective: projects whose names differ only in characters that a label does
not have, or behind the part that fits, derive the same name. What happens then is decided by the
owner that the workspace records, and not here. Names without a letter or a digit derive the empty
name, which no workspace can have.

`WorkspaceAccess.Proofs.Workspace.Naming` proves for every text that the result is a label or empty,
when it is empty, and that a label is its own derived name.
-/

namespace WorkspaceAccess

namespace WorkspaceName

/-- The length of the longest DNS label, which bounds the names of workspaces. -/
def maxLength : Nat := 63

/-- A lower case letter or a digit of ASCII. -/
def isLabelAlphanumeric (c : Char) : Bool :=
  ('a' ≤ c && c ≤ 'z') || ('0' ≤ c && c ≤ '9')

/-- A character that may stand in a DNS label, though a dash not at its ends. -/
def isLabelChar (c : Char) : Bool := isLabelAlphanumeric c || c == '-'

/-- The character of the label for a character of the project's name: letters of ASCII in lower
case, and a dash for anything that a label does not have. -/
def labelChar (c : Char) : Char :=
  let c := c.toLower
  if isLabelChar c then c else '-'

/-- The character is a dash. -/
def isDash (c : Char) : Bool := c == '-'

/-- The characters of the name: mapped to those of labels, without dashes at the ends, cut to the
length of a label, and without the dashes that the cut leaves at the end. -/
def ofChars (project : List Char) : List Char :=
  Text.dropEndWhile isDash ((Text.trimWhile isDash (project.map labelChar)).take maxLength)

end WorkspaceName

/-- The name of the workspace of a project, which depends on nothing but the name of the project. -/
def workspaceName (project : String) : String :=
  String.ofList (WorkspaceName.ofChars project.toList)

end WorkspaceAccess
