import WorkspaceAccess.CommandLine.Address
import WorkspaceAccess.CommandLine.Length
import WorkspaceAccess.CommandLine.LogFilter

/-!
# Settings of the Program

Every setting has an option on the command line; some may also be given by a variable of the
environment, and most have a default. A setting says which texts are values of it
(`Setting.fault?`), and this check is the same wherever the text comes from.

The settings are an enumeration and not fields of a record, since most of what is said about them —
the option, the variable, the default, the check — is the same for all of them and is looked up by
the setting. Only the ones that the controllers use become fields of `Settings`, in
`WorkspaceAccess.CommandLine.Settings`; the others concern the connection to the local cluster, the
log and the administration, and are only checked.

The order in `Setting.all` is the one in which variables are checked, so it decides which of two
wrong variables is reported.
-/

namespace WorkspaceAccess

/-- A setting of the program, by what it sets. -/
inductive Setting where
  /-- Which events are logged, as a filter of directives. -/
  | logLevel
  /-- How events are logged, in which of the formats. -/
  | logFormat
  /-- The file that says how clusters are reached. -/
  | kubeconfig
  /-- The local cluster. -/
  | cluster
  /-- The context of the local cluster. -/
  | context
  /-- The user of the local cluster. -/
  | user
  /-- The user to act as. -/
  | actAs
  /-- The group to act as. -/
  | actAsGroup
  /-- How long the head of an answer may take. -/
  | responseTimeout
  /-- The address that serves the administration. -/
  | adminAddress
  /-- The namespace of staff members. -/
  | staffNamespace
  /-- The namespace of projects. -/
  | projectNamespace
  /-- The namespace of the remote's settings. -/
  | remoteConfigNamespace
  /-- The config map with the remote's settings. -/
  | remoteConfigMap
  /-- The secret with the remote's credentials. -/
  | remoteCredentialsSecret
  /-- How many keys a controller works on at once. -/
  | workers
  /-- The seconds that a reconcile may take. -/
  | reconcileTimeout
  /-- The seconds between two looks at a workspace that is not ready. -/
  | workspacePollInterval
  deriving DecidableEq

namespace Setting

/-- All settings, in the order in which their variables are checked. -/
def all : List Setting := [
  logLevel, logFormat, cluster, context, kubeconfig, user, actAs, actAsGroup, responseTimeout,
  adminAddress, staffNamespace, projectNamespace, remoteConfigNamespace, remoteConfigMap,
  remoteCredentialsSecret, workers, reconcileTimeout, workspacePollInterval]

/-- The name of the option, without its dashes. -/
def name : Setting → String
  | logLevel => "log-level"
  | logFormat => "log-format"
  | cluster => "cluster"
  | context => "context"
  | kubeconfig => "kubeconfig"
  | user => "user"
  | actAs => "as"
  | actAsGroup => "as-group"
  | responseTimeout => "kube-api-response-headers-timeout"
  | adminAddress => "admin-addr"
  | staffNamespace => "staff-namespace"
  | projectNamespace => "project-namespace"
  | remoteConfigNamespace => "remote-config-namespace"
  | remoteConfigMap => "remote-config-map"
  | remoteCredentialsSecret => "remote-credentials-secret"
  | workers => "workers"
  | reconcileTimeout => "reconcile-timeout-secs"
  | workspacePollInterval => "workspace-poll-interval-secs"

/-- The variable of the environment that gives the setting, if there is one. An option on the
command line goes before it. -/
def environmentName? : Setting → Option String
  | logLevel => some "MAINTAINERD_ACCESS_CONTROLLER_LOG"
  | staffNamespace => some "MAINTAINERD_STAFF_NAMESPACE"
  | projectNamespace => some "MAINTAINERD_PROJECT_NAMESPACE"
  | remoteConfigNamespace => some "MAINTAINERD_REMOTE_CONFIG_NAMESPACE"
  | remoteConfigMap => some "MAINTAINERD_REMOTE_CONFIG_MAP"
  | remoteCredentialsSecret => some "MAINTAINERD_REMOTE_CREDENTIALS_SECRET"
  | _ => none

/-- The value where none is given. A setting without a default is left open. -/
def default? : Setting → Option String
  | logLevel => some "maintainerd=info,warn"
  | logFormat => some "plain"
  | responseTimeout => some "9s"
  | adminAddress => some "0.0.0.0:8080"
  | staffNamespace => some "maintainerd"
  | projectNamespace => some "maintainerd"
  | remoteConfigNamespace => some "maintainerd"
  | remoteConfigMap => some "kdp-workspaces"
  | remoteCredentialsSecret => some "kdp-credentials"
  | workers => some "4"
  | reconcileTimeout => some "60"
  | workspacePollInterval => some "10"
  | _ => none

end Setting

/-- What keeps a text from being a value of a setting. The last two have messages of their own, in
which the setting does not occur. -/
inductive ValueFault where
  /-- The text is no such value. -/
  | invalid
  /-- The text writes a length of time that there is not. -/
  | impossibleLength (fault : LengthFault)
  /-- A part of the text begins or ends inside a character. -/
  | split (place : Text.SplitCharacter)
  deriving DecidableEq

/-- What keeps the text from being a value of the setting, if it is none. Names and paths may be any
text. -/
def Setting.fault? (setting : Setting) (text : String) : Option ValueFault :=
  let check (valid : Bool) : Option ValueFault := if valid then none else some .invalid
  match setting with
  | .logLevel =>
    match SettingValue.checkLogFilter text with
    | .ok () => none
    | .error .malformed => some .invalid
    | .error (.split place) => some (.split place)
  | .logFormat => check (text == "plain" || text == "json")
  | .adminAddress => check (SettingValue.isSocketAddress text)
  | .workers | .reconcileTimeout | .workspacePollInterval =>
    check (SettingValue.number? 0x1_0000_0000_0000_0000 text).isSome
  | .responseTimeout =>
    match SettingValue.length text with
    | .ok _ => none
    | .error .malformed => some .invalid
    | .error fault => some (.impossibleLength fault)
  | _ => none

end WorkspaceAccess
