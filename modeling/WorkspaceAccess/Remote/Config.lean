import WorkspaceAccess.Object.Config
import WorkspaceAccess.Remote.ClusterUrl
import WorkspaceAccess.Remote.Kubeconfig
import WorkspaceAccess.Text.Quoted

/-!
# Settings of the Remote Control Plane

The settings are kept in the local cluster: those that are not secret in a config map, the client
configuration with the credentials in a secret. Blanks around a setting do not count, and a blank
setting is none.

One setting has to be there, the type of new workspaces; the parent of the workspaces has a default,
and the address of the server may replace the one in the client configuration. The client
configuration is taken as it is, since its blanks may matter to it. Every mistake has an error that
names the object and the key, and all of them are of the kind that needs an operator
(`RemoteError.isConfig`).

What the settings come to is a `Target`, which says how the server is reached, and the address of
the root workspace. The client configuration has to make sense even where its address is replaced,
because the credentials come from it.
-/

namespace WorkspaceAccess

/-- Names the objects that hold the settings. Both are in one namespace. -/
structure ConfigRef where
  /-- The namespace of both objects. -/
  ns : String
  /-- The name of the config map. -/
  configMap : String
  /-- The name of the secret. -/
  secret : String
  deriving DecidableEq, Inhabited

/-- The settings of the remote control plane, after they have been read. -/
structure RemoteConfig where
  /-- The workspace under which project workspaces are created. -/
  rootPath : String
  /-- The type of new workspaces. -/
  workspaceType : String
  /-- An address in place of the one in the client configuration, if one is set. -/
  server : Option String
  /-- The text of the client configuration. -/
  kubeconfig : String
  deriving DecidableEq

namespace RemoteConfig

/-- The parent of project workspaces where no other is set. -/
def defaultRootPath : String := "root"

/-- The key of the parent's path in the config map. -/
def rootPathKey : String := "workspace-root-path"

/-- The key of the type of new workspaces in the config map. -/
def workspaceTypeKey : String := "workspace-type"

/-- The key of the server's address in the config map. -/
def serverKey : String := "server"

/-- The key of the client configuration in the secret. -/
def kubeconfigKey : String := "kubeconfig"

/-- The setting under a key, without blanks around it, if anything is left. -/
def setting? (configMap : ConfigMap) (key : String) : Option String :=
  ((configMap.data.bind (·.get? key)).map Text.trimBlank).filter (· ≠ "")

/-- The settings that a config map and a secret hold. The mistake that is reported is the first, in
the order in which the settings are looked at. -/
def ofObjects (configMap : ConfigMap) (secret : Secret) : Except ConfigError RemoteConfig := do
  let some workspaceType := setting? configMap workspaceTypeKey
    | .error (.missingKey .configMap configMap.metadata.nameAny workspaceTypeKey)
  let some bytes := secret.data.bind (·.get? kubeconfigKey)
    | .error (.missingKey .secret secret.metadata.nameAny kubeconfigKey)
  let some kubeconfig := String.fromUTF8? ⟨bytes.toArray⟩
    | .error (.notUtf8 secret.metadata.nameAny kubeconfigKey)
  return {
    rootPath := (setting? configMap rootPathKey).getD defaultRootPath
    workspaceType
    server := setting? configMap serverKey
    kubeconfig }

/-- How the server is reached: as the client configuration says, which has to make sense, but at
the address that is set if there is one. -/
def target (config : RemoteConfig) : Except ConfigError Target := do
  let parsed ← (Kubeconfig.parse config.kubeconfig).mapError .kubeconfig
  let target ← parsed.target.mapError .kubeconfig
  match config.server with
  | none => .ok target
  | some server =>
    match Uri.parse? server with
    | some url => .ok { target with url }
    | none => .error (.invalidServer server)

/-- The address of the root workspace: the server, pointed at the logical cluster of the root
path. -/
def rootUrl (config : RemoteConfig) : Except ConfigError Uri := do
  clusterUrl (← config.target).url config.rootPath

/-- The settings without the credentials, for people and for logs. -/
def describe (config : RemoteConfig) : String :=
  "RemoteConfig \x7b root_path: " ++ Text.quote config.rootPath ++ ", workspace_type: " ++
    Text.quote config.workspaceType ++ ", server: " ++
    (match config.server with
      | none => "None"
      | some server => "Some(" ++ Text.quote server ++ ")") ++ ", .. \x7d"

end RemoteConfig

end WorkspaceAccess
