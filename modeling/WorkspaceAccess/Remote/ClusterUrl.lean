import WorkspaceAccess.Remote.Error
import WorkspaceAccess.Text.Blank
import WorkspaceAccess.Uri

/-!
# Addresses of Logical Clusters

One server serves every workspace under a path of its own, `/clusters/` and the logical path of the
workspace. The logical path joins the path of the parent and the name of the workspace with a colon.
An address is pointed at another logical cluster by replacing what follows the first `/clusters/` of
its path; an address whose path has no such part gets one, behind a path of its own if it has one,
without the slashes at the end of that.

The replacement is one of characters. It looks for the first occurrence of the marker, wherever in
the path it begins, and it does not know where the server's own path ends and where the logical
clusters begin. The new path is read again as the target of an address, so that a logical path with
a `?` or a `#` does not stay whole. `WorkspaceAccess.Proofs.Remote.LogicalCluster`,
`WorkspaceAccess.Proofs.Remote.Address` and `WorkspaceAccess.Proofs.Remote.Retarget` say for which
servers and paths the address is the expected one, and exactly when it is not.
-/

namespace WorkspaceAccess

namespace LogicalCluster

/-- What stands in front of a logical path, in every address of a logical cluster. -/
def marker : List Char := "/clusters/".toList

/-- The characters before the first occurrence of a pattern, if there is one. -/
def before? (pattern : List Char) : List Char → Option (List Char)
  | [] => if pattern.isEmpty then some [] else none
  | c :: rest =>
    if pattern.isPrefixOf (c :: rest) then some []
    else (before? pattern rest).map (c :: ·)

/-- The path of a server in front of its logical clusters: up to the first marker, or all of it
without the slashes at its end. -/
def root (path : List Char) : List Char :=
  (before? marker path).getD (Text.dropEndWhile (· == '/') path)

/-- The logical path of a workspace, below its parent. -/
def path (parent workspace : String) : String := parent ++ ":" ++ workspace

end LogicalCluster

/-- The address of the logical cluster of a path on a server; any logical cluster that the server's
address names is replaced. Where the result is no address, the server's address is at fault. -/
def clusterUrl (server : Uri) (path : String) : Except ConfigError Uri :=
  let target := LogicalCluster.root server.path ++ LogicalCluster.marker ++ path.toList
  match (PathAndQuery.ofChars? target).bind server.withTarget? with
  | some url => .ok url
  | none => .error (.invalidServer server.text)

end WorkspaceAccess
