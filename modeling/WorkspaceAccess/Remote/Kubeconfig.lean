import WorkspaceAccess.Remote.Credentials
import WorkspaceAccess.Yaml.Document
import WorkspaceAccess.Yaml.Record

/-!
# Client Configurations

A client configuration lists clusters, users and contexts, each under a name, and selects a context.
How a cluster is reached is found from the selected context through its cluster and its user; of
several entries of one name the first counts. A text may hold several configurations, of which the
earlier ones win.

All parts of a configuration have to be of the right shape, also those that the selected context
does not lead to and those that mean nothing here, such as preferences and extensions: a
configuration is read as a whole before anything is selected. Once it is read, only what the
selection leads to is looked at, so that a cluster without an address does no harm unless it is
selected.

The errors come in the order in which the parts are needed: the context, the cluster, then what the
user needs of the cluster, the address, the certificates and the proxy.
-/

namespace WorkspaceAccess

open Yaml (Node optional? orDefault? required?)

/-- How a cluster is reached, as it is written down. -/
structure ClusterEntry where
  /-- The address of the cluster. -/
  server : Option String
  /-- The certificates of the cluster. -/
  certificates : KeptData
  /-- The address of a proxy. -/
  proxy : Option String
  /-- The name that the cluster has to have. -/
  serverName : Option String

/-- A selection of a cluster, and of a user for it. -/
structure ContextEntry where
  /-- The name of the cluster. -/
  cluster : String
  /-- The name of the user. -/
  user : Option String
  /-- The namespace that requests go to. -/
  ns : Option String

/-- A client configuration. An entry without content has a name all the same, and hides later
ones. -/
structure Kubeconfig where
  /-- The clusters by name, in the order of the file. -/
  clusters : List (String × Option ClusterEntry) := []
  /-- The users by name, in the order of the file. -/
  users : List (String × Option Credentials) := []
  /-- The contexts by name, in the order of the file. -/
  contexts : List (String × Option ContextEntry) := []
  /-- The name of the selected context. -/
  currentContext : Option String := none
  /-- The kind of the configuration. -/
  kind : Option String := none
  /-- The version of the configuration. -/
  apiVersion : Option String := none

namespace Kubeconfig

/-- An extension: a name and any value of JSON. Nothing of it is kept. -/
def extension? (node : Node) : Option Unit := do
  let field ← node.fields? ["name", "extension"]
  let _ ← required? Node.text? (field "name")
  let value ← field "extension"
  if value.isJson then some () else none

/-- The preferences of a person; nothing of them is kept. -/
def preferences? (node : Node) : Option Unit := do
  let field ← node.fields? ["colors", "extensions"]
  let _ ← optional? Node.bool? (field "colors")
  let _ ← optional? (Node.list? extension?) (field "extensions")
  return ()

/-- The cluster that a value describes. -/
def clusterEntry? (node : Node) : Option ClusterEntry := do
  let field ← node.fields? ["server", "insecure-skip-tls-verify", "certificate-authority",
    "certificate-authority-data", "proxy-url", "disable-compression", "tls-server-name",
    "extensions"]
  let text (name : String) : Option (Option String) := optional? Node.text? (field name)
  let flag (name : String) : Option (Option Bool) := optional? Node.bool? (field name)
  let server ← text "server"
  let _ ← flag "insecure-skip-tls-verify"
  let certificates : KeptData :=
    ⟨← text "certificate-authority-data", ← text "certificate-authority"⟩
  let proxy ← text "proxy-url"
  let _ ← flag "disable-compression"
  let serverName ← text "tls-server-name"
  let _ ← optional? (Node.list? extension?) (field "extensions")
  return { server, certificates, proxy, serverName }

/-- The context that a value describes. -/
def contextEntry? (node : Node) : Option ContextEntry := do
  let field ← node.fields? ["cluster", "user", "namespace", "extensions"]
  let cluster ← required? Node.text? (field "cluster")
  let user ← optional? Node.text? (field "user")
  let ns ← optional? Node.text? (field "namespace")
  let _ ← optional? (Node.list? extension?) (field "extensions")
  return ⟨cluster, user, ns⟩

/-- A provider that finds a user: a name and a map of texts. -/
def provider? (node : Node) : Option Provider := do
  let field ← node.fields? ["name", "config"]
  let name ← required? Node.text? (field "name")
  let settings ← orDefault? [] Node.textMap? (field "config")
  return ⟨name, .ofList settings⟩

/-- A command that finds a user, as whether it is told about the cluster. -/
def command? (node : Node) : Option Bool := do
  let field ← node.fields? ["apiVersion", "command", "args", "env", "interactiveMode",
    "provideClusterInfo"]
  let _ ← optional? Node.text? (field "apiVersion")
  let _ ← optional? Node.text? (field "command")
  let _ ← optional? (Node.list? Node.text?) (field "args")
  let _ ← optional? (Node.list? Node.textMap?) (field "env")
  let _ ← optional? (Node.word? ["Never", "IfAvailable", "Always"]) (field "interactiveMode")
  orDefault? false Node.bool? (field "provideClusterInfo")

/-- The user that a value describes. -/
def userEntry? (node : Node) : Option Credentials := do
  let field ← node.fields? ["username", "password", "token", "tokenFile", "client-certificate",
    "client-certificate-data", "client-key", "client-key-data", "as", "as-groups",
    "auth-provider", "exec"]
  let text (name : String) : Option (Option String) := optional? Node.text? (field name)
  return {
    username := ← text "username"
    password := ← text "password"
    token := ← text "token"
    tokenFile := ← text "tokenFile"
    certificate := ⟨← text "client-certificate-data", ← text "client-certificate"⟩
    key := ⟨← text "client-key-data", ← text "client-key"⟩
    actAs := ← text "as"
    actAsGroups := (← optional? (Node.list? Node.text?) (field "as-groups")).getD []
    provider := ← optional? provider? (field "auth-provider")
    command := ← optional? command? (field "exec") }

/-- An entry with a name. -/
def named? {α : Type} (content : String) (decode : Node → Option α) (node : Node) :
    Option (String × Option α) := do
  let field ← node.fields? ["name", content]
  return (← required? Node.text? (field "name"), ← optional? decode (field content))

/-- The configuration that a value describes. -/
def ofNode? (node : Node) : Option Kubeconfig := do
  let field ← node.fields? ["preferences", "clusters", "users", "contexts", "current-context",
    "extensions", "kind", "apiVersion"]
  let list {α : Type} (content : String) (decode : Node → Option α) (name : String) :
      Option (List (String × Option α)) :=
    (optional? (Node.list? (named? content decode)) (field name)).map (·.getD [])
  let _ ← optional? preferences? (field "preferences")
  let clusters ← list "cluster" clusterEntry? "clusters"
  let users ← list "user" userEntry? "users"
  let contexts ← list "context" contextEntry? "contexts"
  let currentContext ← optional? Node.text? (field "current-context")
  let _ ← optional? (Node.list? extension?) (field "extensions")
  let kind ← optional? Node.text? (field "kind")
  let apiVersion ← optional? Node.text? (field "apiVersion")
  return { clusters, users, contexts, currentContext, kind, apiVersion }

/-- The configuration that a document describes. -/
def ofDocument (node : Node) : Except KubeconfigError Kubeconfig :=
  match ofNode? node with
  | some config => .ok config
  | none => .error .malformed

/-- Two texts that are both there differ. -/
def differ : Option String → Option String → Bool
  | some a, some b => a != b
  | _, _ => false

/-- Completes a configuration by a later one of the same kind and version. An earlier entry hides
later ones of its name. -/
def merge (a b : Kubeconfig) : Except KubeconfigError Kubeconfig :=
  if differ a.kind b.kind then .error .mismatchedKind
  else if differ a.apiVersion b.apiVersion then .error .mismatchedVersion
  else .ok {
    clusters := a.clusters ++ b.clusters
    users := a.users ++ b.users
    contexts := a.contexts ++ b.contexts
    currentContext := a.currentContext <|> b.currentContext
    kind := a.kind <|> b.kind
    apiVersion := a.apiVersion <|> b.apiVersion }

/-- The configuration that a text writes. A document that is no configuration is reported before a
text that breaks off. -/
def parse (text : String) : Except KubeconfigError Kubeconfig := do
  let (nodes, complete) := Yaml.documents text
  let configs ← nodes.mapM ofDocument
  if complete then configs.foldlM merge {} else .error .unparsable

/-- The content of the first entry of a name, if that has one. -/
def find? {α : Type} (name : String) (entries : List (String × Option α)) : Option α :=
  (entries.find? (·.1 == name)).bind (·.2)

/-- The certificates as they are kept. They need not be given, but then they have to be there. -/
def certificateText (cluster : ClusterEntry) : Except KubeconfigError (List UInt8) :=
  if cluster.certificates.isGiven then
    match cluster.certificates.bytes? with
    | some bytes => .ok bytes
    | none => .error .invalidCertificates
  else .ok []

/-- The certificates of a cluster. -/
def certificates (cluster : ClusterEntry) : Except KubeconfigError (List (List UInt8)) := do
  match Pem.sections? (← certificateText cluster) with
  | some sections => .ok ((sections.filter (·.tag == "CERTIFICATE")).map (·.data))
  | none => .error .malformedCertificates

/-- The proxy of a cluster; an empty address is none. -/
def proxy (cluster : ClusterEntry) : Except KubeconfigError (Option Uri) :=
  match cluster.proxy with
  | none | some "" => .ok none
  | some text =>
    match Uri.parse? text with
    | some url => .ok (some url)
    | none => .error .invalidProxy

/-- How the cluster of the selected context is reached. A command that is told about the cluster
needs its certificates first. -/
def target (config : Kubeconfig) : Except KubeconfigError Target := do
  let some contextName := config.currentContext | .error .noCurrentContext
  let some context := find? contextName config.contexts | .error (.noContext contextName)
  let some cluster := find? context.cluster config.clusters | .error (.noCluster context.cluster)
  let credentials := (context.user.bind fun name => find? name config.users).getD {}
  if credentials.command = some true then
    let _ ← certificateText cluster
  let some server := cluster.server | .error .noServer
  let some url := Uri.parse? server | .error (.invalidServer server)
  let certificates ← certificates cluster
  let proxy ← proxy cluster
  return { url, proxy, certificates, serverName := cluster.serverName, credentials }

end Kubeconfig

end WorkspaceAccess
