import WorkspaceAccess.Access.Metrics
import WorkspaceAccess.Local.Store
import WorkspaceAccess.Reconcile.Activity
import WorkspaceAccess.Remote.InMemory

/-!
# A World in Memory

The outside world of the controllers as a value: a remote control plane, the projects and the staff,
the metrics of the sweeps, and how long each call takes. A call has its effect at the end of its
delay. All sessions with the control plane are the same.

The world answers every call by an operation of the store that the call concerns and changes nothing
else, which is immediate from `World.answer`; most of the laws about whole systems rest on this.
Delays are set by the names of calls (`Call.label`): the calls of one kind share a delay, except
that each workspace has a delay of its own for the write of its binding, so that a sweep can be held
up at one workspace. Both patches share a name.

Faults are part of the stores, and sessions carry no data, so that a world can be put into any state
by editing it between the turns of the controllers.
-/

namespace WorkspaceAccess

/-- How long calls take, in nanoseconds, by the names of calls; those that are not set take no
time. -/
abbrev Delays := SortedMap String Nat

/-- The name under which the delay of a call is set. -/
def Call.label {σ : Type} : Call σ → String
  | connect => "connect"
  | getWorkspace .. => "get"
  | createWorkspace .. => "create"
  | listWorkspaces _ => "list"
  | writeBinding _ workspace _ => "bind:" ++ workspace
  | getProject _ => "project"
  | patchProject .. => "patch"
  | listStaff => "roster"
  | patchStaff .. => "patch"

/-- The outside world of the controllers: everything that their calls can see or change. -/
structure World where
  /-- The remote control plane, with its workspaces and their bindings. -/
  remote : InMemory
  /-- The projects of the local cluster. -/
  projects : Store Project := Store.empty
  /-- The staff members of the local cluster. -/
  staff : Store StaffMember := Store.empty
  /-- The metrics of the sweeps. -/
  metrics : SweepMetrics := {}
  /-- How long calls take, where it is not no time at all. -/
  delays : Delays := SortedMap.empty

namespace World

/-- What a call is answered, and the world afterwards. Each call touches one part of the world. -/
def answer (call : Call Unit) (clock : Clock) (w : World) : call.Answer × World :=
  match call with
  | .connect => (w.remote.connect, w)
  | .getWorkspace _ name => (w.remote.getWorkspace name, w)
  | .createWorkspace _ name project =>
    let (r, remote) := w.remote.createWorkspace name project
    (r, { w with remote })
  | .listWorkspaces _ => (w.remote.listWorkspaces, w)
  | .writeBinding _ workspace subjects =>
    let (r, remote) := w.remote.writeBinding workspace subjects clock.wall
    (r, { w with remote })
  | .getProject id => (w.projects.get id, w)
  | .patchProject id annotations =>
    let (r, projects) := w.projects.patch Project.annotate id annotations
    (r, { w with projects })
  | .listStaff => (w.staff.list, w)
  | .patchStaff id annotations =>
    let (r, staff) := w.staff.patch StaffMember.annotate id annotations
    (r, { w with staff })

/-- The world with the counts of a sweep added to its metrics. -/
def report (counts : SweepCounts) (w : World) : World :=
  { w with metrics := w.metrics.record counts }

/-- The world as the host of activities, with a calendar. A call for which no delay is set is
answered at once. -/
def host (wall : Instant → Timestamp) : Host Unit World where
  delay w call := w.delays.getD call.label 0
  answer := answer
  report := report
  wall := wall

end World

end WorkspaceAccess
