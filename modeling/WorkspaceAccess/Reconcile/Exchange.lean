import WorkspaceAccess.Local.Api
import WorkspaceAccess.Reconcile.Activity
import WorkspaceAccess.Remote.Connector

/-!
# Reconciles by Requests

Every call of a reconcile is an exchange with the local cluster or with the remote control plane,
and a reconcile is the exchange that its calls make up. Time stands still in it, so that no wait
comes to its limit; what deadlines do to a reconcile is a matter of activities
(`WorkspaceAccess.Reconcile.Activity`), and what is sent is a matter of exchanges.

`Premises` fix where the calls go: the settings from which sessions are opened, and the namespace
whose staff members make up the roster. Projects and the staff members on whom outcomes are recorded
are found by the namespaces in their own identities.
-/

namespace WorkspaceAccess

/-- Where the calls of a reconcile are directed, the same for all reconciles of a program. -/
structure Premises where
  /-- How sessions are opened, from the settings and the credentials. -/
  connector : Connector
  /-- The namespace of the staff. -/
  staffNamespace : String
  deriving DecidableEq

/-- The exchange that a call is: the requests that it makes, and what it is answered for the
replies. -/
def Call.exchange (p : Premises) : (call : Call RemoteSession) → Exchange call.Answer
  | .connect => p.connector.connect
  | .getWorkspace session name => session.getWorkspace name
  | .createWorkspace session name project => session.createWorkspace name project
  | .listWorkspaces session => session.listWorkspaces
  | .writeBinding session workspace subjects => session.writeBinding workspace subjects
  | .getProject id => Project.fetch id
  | .patchProject id annotations => Project.patch id annotations
  | .listStaff => StaffMember.fetchAll p.staffNamespace
  | .patchStaff id annotations => StaffMember.patch id annotations

/-- The exchange that an activity is, when it is carried out at one point in time. What it reports
for the metrics leaves no trace in its requests. -/
def Activity.exchange {α : Type} (p : Premises) (now : Instant) :
    Activity RemoteSession α → Exchange α
  | .done a => .done a
  | .look next => .look fun wall => (next ⟨now, wall⟩).exchange p now
  | .report _ next => next.exchange p now
  | .await call next => (call.exchange p).bind fun r => (next r).exchange p now
  | .awaitUntil _ call next _ => (call.exchange p).bind fun r => (next r).exchange p now

end WorkspaceAccess
