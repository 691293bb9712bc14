import WorkspaceAccess.Index.Project
import WorkspaceAccess.Index.Staff
import WorkspaceAccess.Reconcile.World

/-!
# A World That Is Watched

Every change of a project or of a staff member is delivered to the indexes at once, and what the
indexes ask for is kept until it is handed over to the controllers.

Changes come from two sides. A patch by a reconcile changes an object, and the watch shows the
object as it is afterwards (`WatchedWorld.notice`); a patch that was refused, or found no object,
shows nothing. People change projects and the roster from outside, and every such change is applied
to the store and delivered in one step. So the indexes never fall behind the world, which is the
ideal that a watch approaches.

The watched world is a host like the world that it contains: the same calls, the same delays, and
the indexes beside them.
-/

namespace WorkspaceAccess

/-- The outside world, with the indexes that watch it and what they have asked for. -/
structure WatchedWorld where
  /-- The outside world, in which the objects are watched. -/
  world : World
  /-- The projects that record a ready workspace. -/
  ready : ReadyProjects := SortedMap.empty
  /-- The state of the staff index. -/
  staff : StaffIndex := .empty
  /-- What the indexes asked for and was not yet handed over. -/
  demand : ProjectDemand := ⟨[], []⟩

namespace WatchedWorld

/-- More is asked for, behind what is asked for already. -/
def ask (w : WatchedWorld) (d : ProjectDemand) : WatchedWorld :=
  { w with demand := ⟨w.demand.lifecycle ++ d.lifecycle, w.demand.sweeps ++ d.sweeps⟩ }

/-- A project was added or changed. -/
def projectApplied (w : WatchedWorld) (id : ResourceId) (project : Project) : WatchedWorld :=
  let (ready, d) := ProjectIndex.apply w.ready id project
  { w with ready }.ask d

/-- A project was removed. -/
def projectDeleted (w : WatchedWorld) (id : ResourceId) : WatchedWorld :=
  let (ready, d) := ProjectIndex.delete w.ready id
  { w with ready }.ask d

/-- A staff member was added or changed. -/
def staffApplied (w : WatchedWorld) (id : ResourceId) (member : StaffMember) : WatchedWorld :=
  let (staff, triggers) := w.staff.apply id member
  { w with staff }.ask ⟨[], triggers⟩

/-- A staff member was removed. -/
def staffDeleted (w : WatchedWorld) (id : ResourceId) : WatchedWorld :=
  let (staff, triggers) := w.staff.delete id
  { w with staff }.ask ⟨[], triggers⟩

/-- The change that a patch has made is delivered, with the object as it is now. -/
def notice (w : WatchedWorld) : Call Unit → WatchedWorld
  | .patchProject id _ => (w.world.projects.objects.get? id).elim w (w.projectApplied id)
  | .patchStaff id _ => (w.world.staff.objects.get? id).elim w (w.staffApplied id)
  | _ => w

/-- The answer of a call says that an object was patched, so that there is a change to deliver. -/
def isPatch : (call : Call Unit) → call.Answer → Bool
  | .patchProject .., .ok done => done
  | .patchStaff .., .ok done => done
  | _, _ => false

/-- What a call is answered, and the world afterwards, with the indexes told about every change. -/
def answer (call : Call Unit) (clock : Clock) (w : WatchedWorld) : call.Answer × WatchedWorld :=
  let (r, world) := World.answer call clock w.world
  let w := { w with world }
  (r, if isPatch call r then w.notice call else w)

/-- The watched world as the host of activities, with a calendar. -/
def host (wall : Instant → Timestamp) : Host Unit WatchedWorld where
  delay w call := w.world.delays.getD call.label 0
  answer := answer
  report counts w := { w with world := w.world.report counts }
  wall := wall

/-! ### Changes from outside -/

/-- Adds a project, or annotations to the one that is there. -/
def putProject (w : WatchedWorld) (id : ResourceId) (annotations : Annotations) : WatchedWorld :=
  let project := Project.edit (w.world.projects.objects.get? id) id annotations
  { w with world := { w.world with projects := w.world.projects.put id project } }.projectApplied
    id project

/-- Adds a member, or changes the one that is there. -/
def putStaff (w : WatchedWorld) (id : ResourceId) (email : String) (annotations : Annotations) :
    WatchedWorld :=
  let member := StaffMember.edit (w.world.staff.objects.get? id) id email annotations
  { w with world := { w.world with staff := w.world.staff.put id member } }.staffApplied id member

/-- Removes a project. -/
def removeProject (w : WatchedWorld) (id : ResourceId) : WatchedWorld :=
  { w with world := { w.world with projects := w.world.projects.remove id } }.projectDeleted id

/-- Removes a member. -/
def removeStaff (w : WatchedWorld) (id : ResourceId) : WatchedWorld :=
  { w with world := { w.world with staff := w.world.staff.remove id } }.staffDeleted id

end WatchedWorld

end WorkspaceAccess
