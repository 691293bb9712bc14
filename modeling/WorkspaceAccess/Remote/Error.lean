import WorkspaceAccess.Object.Kind
import WorkspaceAccess.Text.Quoted
import WorkspaceAccess.Workspace.Info

/-!
# What Can Go Wrong with a Remote

Errors are causes. A request to an API fails because it cannot be built or delivered, because its
reply cannot be read, or because the server refuses it. Settings fail because an object or a key is
missing, or because its content does not make sense. The text of each cause is in one place, its
`message`, and a cause that lies behind another one is told in its words.

What is done about an error depends on its kind and never on its text. `RemoteError.isConfig` and
`RemoteError.isCollision` select the errors that no retry removes, and `ApiError.isNotFound`,
`isConflict` and `isAbsence` those that a client can answer by something else than giving up. Two
notions of absence differ: a code of a refusal, and the reason that the server gives.

`WorkspaceInfo.claim` stands here because a collision is the only error that does not come from a
server: whether a workspace that exists may serve a project is decided by its record of the project
it was requested for. A workspace without such a record belongs to nobody yet and is accepted.
-/

namespace WorkspaceAccess

/-- How a server refuses a request, as its reply says. -/
structure Refusal where
  /-- The status of the request. -/
  status : String
  /-- What the server says to people. -/
  message : String
  /-- What the server says to programs. -/
  reason : String
  /-- The status code that the refusal goes by. -/
  code : Nat
  deriving DecidableEq

/-- Why a request to an API failed, or why there is no client to make it. -/
inductive ApiError where
  /-- The server refused the request. -/
  | refused (refusal : Refusal)
  /-- The reply is not of the expected shape. -/
  | unreadable
  /-- There is no request of that path. -/
  | unbuildable
  /-- The request did not reach the server. -/
  | undelivered
  /-- The client is asked to use a proxy of a kind that it does not have. -/
  | proxyNotBuiltIn
  /-- The client is asked to use a proxy of a kind that there is not. -/
  | proxyUnknown
  /-- The client cannot be recognised. -/
  | unrecognised
  /-- The token of the client cannot stand in the head of a request. -/
  | unspeakableToken
  /-- The certificates of the cluster or of the client cannot be used. -/
  | unusableCertificates
  /-- Whom the client acts as cannot stand in the head of a request. -/
  | unspeakable
  deriving DecidableEq

namespace ApiError

/-- The server refused the request with this status code. Other errors have no code. -/
def hasCode (e : ApiError) (code : Nat) : Bool :=
  match e with
  | refused r => r.code == code
  | _ => false

/-- The server has no such object. -/
def isNotFound (e : ApiError) : Bool := e.hasCode 404

/-- The server has another version of the object. -/
def isConflict (e : ApiError) : Bool := e.hasCode 409

/-- The server gives the absence of the object as its reason, whatever code it gives. -/
def isAbsence : ApiError → Bool
  | refused r => r.reason == "NotFound"
  | _ => false

/-- What is said about the failure. -/
def message : ApiError → String
  | refused r =>
    "ApiError: " ++ r.message ++ ": " ++ r.reason ++ " (ErrorResponse \x7b status: " ++
      Text.quote r.status ++ ", message: " ++ Text.quote r.message ++ ", reason: " ++
      Text.quote r.reason ++ ", code: " ++ toString r.code ++ " \x7d)"
  | unreadable => "the reply is not of the expected shape"
  | unbuildable => "there is no request of that path"
  | undelivered => "the request did not reach the server"
  | proxyNotBuiltIn => "the client does not have this kind of proxy"
  | proxyUnknown => "there is no such kind of proxy"
  | unrecognised => "the client cannot be recognised"
  | unspeakableToken => "token is not valid header: InvalidHeaderValue"
  | unusableCertificates => "the certificates cannot be used"
  | unspeakable => "whom the client acts as cannot be named in a request"

end ApiError

/-- Why a client configuration does not lead to a cluster. -/
inductive KubeconfigError where
  /-- The text has no value. -/
  | unparsable
  /-- The value is no client configuration. -/
  | malformed
  /-- Two configurations of one text are of different kinds. -/
  | mismatchedKind
  /-- Two configurations of one text are of different versions. -/
  | mismatchedVersion
  /-- No context is selected, so that there is no cluster to go to. -/
  | noCurrentContext
  /-- The selected context is not there. -/
  | noContext (name : String)
  /-- The cluster of the context is not there. -/
  | noCluster (context : String)
  /-- The cluster has no address. -/
  | noServer
  /-- The address of the cluster is none. -/
  | invalidServer (server : String)
  /-- The certificates of the cluster cannot be read. -/
  | invalidCertificates
  /-- The certificates of the cluster are not written as they should be. -/
  | malformedCertificates
  /-- The address of the proxy is none. -/
  | invalidProxy
  deriving DecidableEq

namespace KubeconfigError

/-- What is said about the configuration. -/
def message : KubeconfigError → String
  | unparsable => "failed to parse kubeconfig YAML"
  | malformed => "the structure of the parsed kubeconfig is invalid"
  | mismatchedKind => "kubeconfigs with mismatching kind cannot be merged"
  | mismatchedVersion => "kubeconfigs with mismatching api version cannot be merged"
  | noCurrentContext => "failed to determine current context"
  | noContext name => "failed to load current context: " ++ name
  | noCluster context => "failed to load the cluster of context: " ++ context
  | noServer => "cluster url is missing on selected cluster"
  | invalidServer _ => "failed to parse cluster url"
  | invalidCertificates => "failed to load certificate authority"
  | malformedCertificates => "failed to parse PEM-encoded certificates"
  | invalidProxy => "failed to parse proxy url"

end KubeconfigError

/-- Why the settings of the remote control plane do not make sense, with what an operator has to
look for. -/
inductive ConfigError where
  /-- An object with settings is not there. -/
  | notFound (kind : ObjectKind) (ns name : String)
  /-- An object with settings lacks a key. -/
  | missingKey (kind : ObjectKind) (name key : String)
  /-- The bytes under a key of a secret are no text. -/
  | notUtf8 (name key : String)
  /-- The client configuration does not lead to a cluster. -/
  | kubeconfig (error : KubeconfigError)
  /-- The address of the server is none, or none of a logical cluster can be made from it. -/
  | invalidServer (server : String)
  deriving DecidableEq

namespace ConfigError

/-- What is said about the settings. -/
def message : ConfigError → String
  | notFound kind ns name => kind.name ++ " " ++ ns ++ "/" ++ name ++ " not found"
  | missingKey kind name key => kind.name ++ " " ++ name ++ " is missing the " ++ key ++ " key"
  | notUtf8 name key => "Secret " ++ name ++ " key " ++ key ++ " is not valid UTF-8"
  | kubeconfig error => "invalid kubeconfig: " ++ error.message
  | invalidServer server => "invalid server URL: " ++ server

end ConfigError

/-- Why an operation of the remote control plane failed. -/
inductive RemoteError where
  /-- The settings do not make sense. -/
  | config (error : ConfigError)
  /-- The settings could not be read from the local cluster. -/
  | settings (error : ApiError)
  /-- A request to the remote control plane failed. -/
  | api (error : ApiError)
  /-- Other writers kept changing the access binding. -/
  | contended (workspace : String)
  /-- The workspace belongs to another project. -/
  | collision (workspace project owner : String)
  deriving DecidableEq

namespace RemoteError

/-- The settings are at fault, so that an operator is needed and a retry soon makes no sense. -/
def isConfig : RemoteError → Bool
  | config _ => true
  | _ => false

/-- The name of the workspace is taken, which no retry changes. -/
def isCollision : RemoteError → Bool
  | collision .. => true
  | _ => false

/-- What is said about the failure. -/
def message : RemoteError → String
  | config error => "invalid remote configuration: " ++ error.message
  | settings error => "failed to read remote configuration: " ++ error.message
  | api error => "remote API request failed: " ++ error.message
  | contended workspace => "access binding in workspace " ++ workspace ++ " is contended"
  | collision workspace project owner =>
    "workspace " ++ workspace ++ " belongs to project " ++ owner ++ ", not " ++ project

end RemoteError

/-- Accepts an existing workspace for a project, unless it was requested for another one. A
workspace that records no project is accepted. -/
def WorkspaceInfo.claim (ws : WorkspaceInfo) (project : String) :
    Except RemoteError WorkspaceInfo :=
  match ws.project with
  | some owner => if owner = project then .ok ws else .error (.collision ws.name project owner)
  | none => .ok ws

end WorkspaceAccess
