import WorkspaceAccess.Json.Basic

/-!
# Kinds of Objects

The API of a cluster serves objects by kind. A kind belongs to a group and a version of the API, and
its plural names the path under which its objects are served: `/api/` for the core group, which has
no name, and `/apis/` for every other.

An object may name its kind and version. The objects of the API itself then have to name the right
ones (`admits`), while a project, a staff member or a workspace is read whatever it names, since the
request has fixed the kind already. When an object is written, both are put in front.

The six kinds that the controllers deal with are listed here, and nowhere else are groups, versions
or plurals spelled out.
-/

namespace WorkspaceAccess

/-- A kind of object that an API serves. -/
structure ObjectKind where
  /-- The group of the API; the core group has no name. -/
  group : String
  /-- The version of the API. -/
  version : String
  /-- The name of the kind. -/
  name : String
  /-- The name of the kind in paths, in the plural and in small letters. -/
  plural : String
  deriving DecidableEq

namespace ObjectKind

/-- A project workspace of the remote control plane. -/
def workspace : ObjectKind := ⟨"tenancy.kcp.io", "v1alpha1", "Workspace", "workspaces"⟩

/-- An onboarded project. -/
def project : ObjectKind := ⟨"maintainer-d.cncf.io", "v1alpha1", "Project", "projects"⟩

/-- A member of the foundation's staff. -/
def staffMember : ObjectKind :=
  ⟨"maintainer-d.cncf.io", "v1alpha1", "StaffMember", "staffmembers"⟩

/-- A role granted to subjects in a whole cluster. -/
def clusterRoleBinding : ObjectKind :=
  ⟨"rbac.authorization.k8s.io", "v1", "ClusterRoleBinding", "clusterrolebindings"⟩

/-- Settings, of the core group. -/
def configMap : ObjectKind := ⟨"", "v1", "ConfigMap", "configmaps"⟩

/-- Credentials, of the core group. -/
def secret : ObjectKind := ⟨"", "v1", "Secret", "secrets"⟩

/-- The group and the version in one text, as objects name them; the version alone for the core
group. -/
def apiVersion (k : ObjectKind) : String :=
  if k.group = "" then k.version else k.group ++ "/" ++ k.version

/-- The path under which the objects of the kind are served, in one namespace or in all. -/
def path (k : ObjectKind) (ns : Option String) : String :=
  (if k.group = "" then "/api/" else "/apis/") ++ k.apiVersion ++ "/" ++
    (match ns with
      | none => ""
      | some ns => "namespaces/" ++ ns ++ "/") ++ k.plural

/-- The members of a value name this kind, each time that they name one. Naming none is fine. -/
def admits (k : ObjectKind) (field : String → List Json) : Bool :=
  ((field "apiVersion").all fun v => v.string? == some k.apiVersion) &&
    (field "kind").all fun v => v.string? == some k.name

end ObjectKind

end WorkspaceAccess
