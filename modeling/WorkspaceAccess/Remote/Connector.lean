import WorkspaceAccess.Remote.Session

/-!
# Connecting

Every session starts from the settings as they are in the local cluster at that time. They are read
anew for every reconcile, first the config map and then the secret, so that a change of either takes
effect with the next reconcile and nothing has to be started again.

Three kinds of failure are told apart, since they have different consequences: an object that is not
there is a mistake of the configuration, a server that does not answer is not, and settings that
make no sense are again one of the configuration. A client is built only in the end; whether its
credentials can be used depends on the calendar, as tokens run out.
-/

namespace WorkspaceAccess

/-- What is needed to open sessions, the same for all of them. -/
structure Connector where
  /-- The objects that hold the settings. -/
  refs : ConfigRef
  /-- The namespace that the roster comes from. -/
  sourceNamespace : String
  deriving DecidableEq

namespace Connector

/-- An object with settings, which has to be there. That it is not there is told apart from not
being able to read it. -/
def setting {α : Type} (c : Connector) (kind : ObjectKind) (decode : Json → Option α)
    (name : String) : Exchange (Except RemoteError α) :=
  let objects : Collection α := ⟨.localCluster, kind, some c.refs.ns, decode⟩
  (objects.get? name).map fun
    | .ok (some a) => .ok a
    | .ok none => .error (.config (.notFound kind c.refs.ns name))
    | .error e => .error (.settings e)

/-- Reads the settings: the config map first, then the secret. The second is not read when the first
fails. -/
def load (c : Connector) : Exchange (Except RemoteError RemoteConfig) :=
  (c.setting .configMap ConfigMap.ofJson? c.refs.configMap).andThen fun configMap =>
    (c.setting .secret Secret.ofJson? c.refs.secret).map fun secret =>
      secret.bind fun secret => (RemoteConfig.ofObjects configMap secret).mapError .config

/-- Opens a session with the settings and at the time of this moment. -/
def connect (c : Connector) : Exchange (Except RemoteError RemoteSession) :=
  c.load.andThen fun config =>
    .look fun now => .done (RemoteSession.establish config c.sourceNamespace now)

end Connector

end WorkspaceAccess
