import WorkspaceAccess.Api.Collection
import WorkspaceAccess.Object.Project
import WorkspaceAccess.Object.StaffMember
import WorkspaceAccess.ResourceId

/-!
# Projects and Staff in the Local Cluster

The requests by which the projects and the staff members are read and annotated. Both controllers
touch the local cluster in no other way: they look one project up, list one roster, and merge
annotations into one object. They never create, replace or delete an object there, and never write a
specification.

Each kind is a `Collection` of its own namespace, so that the decoders, the paths and the treatment
of absent objects are those of all collections, and what is added here is the kind, the decoder and
the client on whose behalf fields are changed. A patch answers whether the object is there: one that
has been deleted while its reconcile was under way is no failure.
-/

namespace WorkspaceAccess

namespace Project

/-- The client on whose behalf the lifecycle changes fields of projects. -/
def fieldManager : String := "maintainerd-workspace-lifecycle"

/-- The projects of a namespace, as a collection of the local cluster. -/
def collection (ns : String) : Collection Project :=
  ⟨.localCluster, .project, some ns, Project.ofJson?⟩

/-- Looks a project up. That there is none is an answer and not an error. -/
def fetch (id : ResourceId) : Exchange (Except ApiError (Option Project)) :=
  (collection id.ns).get? id.name

/-- Adds annotations to a project; the answer says whether it is there. -/
def patch (id : ResourceId) (annotations : Annotations) : Exchange (Except ApiError Bool) :=
  (collection id.ns).annotate id.name fieldManager (.ofStringMap annotations)

end Project

namespace StaffMember

/-- The client on whose behalf sweeps change fields of staff members. -/
def fieldManager : String := "maintainerd-staff-access"

/-- The staff members of a namespace, as a collection of the local cluster. -/
def collection (ns : String) : Collection StaffMember :=
  ⟨.localCluster, .staffMember, some ns, StaffMember.ofJson?⟩

/-- Lists the complete roster of a namespace, without a selection by labels. -/
def fetchAll (ns : String) : Exchange (Except ApiError (List StaffMember)) :=
  (collection ns).list none

/-- Adds annotations to a staff member; the answer says whether it is there. -/
def patch (id : ResourceId) (annotations : Annotations) : Exchange (Except ApiError Bool) :=
  (collection id.ns).annotate id.name fieldManager (.ofStringMap annotations)

end StaffMember

end WorkspaceAccess
