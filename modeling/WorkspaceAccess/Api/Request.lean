import WorkspaceAccess.Json.Printer
import WorkspaceAccess.Json.Reader
import WorkspaceAccess.Text.Form
import WorkspaceAccess.Uri

/-!
# Requests and Replies

A request goes to the local cluster or to a logical cluster of the remote server. It names a path on
that server and may carry parameters and a content; the reply has a status code and a text.

The address of a logical cluster has a path of its own, which stands in front of the path of every
request that goes there (`Request.path`), with a slash at its end left out. What is behind a `?` in
the target are the parameters, encoded as a form; they are not part of the path.

A request is made from a text, which has to be an address to begin with. `Request.ofTarget?` and
`Request.ofPath?` therefore give no request where the path, which may contain a name that somebody
has chosen, makes up no address; the caller reports that no request could be built. A text that is
an address is split as addresses are: what looks like a `?` or a `#` in a name ends the path there.

Methods and content types are written as they appear on the wire, since the order of requests, their
methods and their bodies are what `WorkspaceAccess.Proofs.Remote.Protocol` and
`WorkspaceAccess.Proofs.Remote.WorkspaceRequests` speak about.
-/

namespace WorkspaceAccess

/-- Where a request goes. The two sides are reached with different credentials and never mixed in
one request. -/
inductive Server where
  /-- The request goes to the local cluster. -/
  | localCluster
  /-- The request goes to the logical cluster with this address. -/
  | logicalCluster (address : Uri)
  deriving DecidableEq

/-- What is asked for: the four methods that the controllers use. -/
inductive Method where
  /-- To be shown an object, or a list of them. -/
  | get
  /-- To create an object, which the content describes. -/
  | post
  /-- To replace an object by what the content describes. -/
  | put
  /-- To change parts of an object. -/
  | patch
  deriving DecidableEq

/-- The name of a method. -/
def Method.text : Method → String
  | get => "GET"
  | post => "POST"
  | put => "PUT"
  | patch => "PATCH"

/-- The content of a request and its type, which tells a server how the value is meant. -/
structure Content where
  /-- The type of the content. -/
  type : String
  /-- The value, which is written as compact JSON. -/
  value : Json

namespace Content

/-- An object, to be stored as it is. -/
def object (value : Json) : Content := ⟨"application/json", value⟩

/-- Changes that are merged into an object: members that are not mentioned stay as they are. -/
def mergePatch (value : Json) : Content := ⟨"application/merge-patch+json", value⟩

end Content

/-- A request as it is sent: the server, the method, the target and the content. -/
structure Request where
  /-- The cluster that the request goes to. -/
  server : Server
  /-- What is asked for, of the four methods. -/
  method : Method
  /-- The path and the query on the server. -/
  target : PathAndQuery
  /-- The content, if there is one. -/
  content : Option Content

namespace Request

/-- A request for a path and, after a question mark, a query, if there is such an address. -/
def ofTarget? (server : Server) (method : Method) (target : String) (content : Option Content) :
    Option Request :=
  (Uri.parse? target).map fun uri => ⟨server, method, uri.target, content⟩

/-- A request with a path and parameters, if there is an address of that path. The question mark is
there even when there are no parameters. -/
def ofPath? (server : Server) (method : Method) (path : String)
    (parameters : List (String × String)) (content : Option Content) : Option Request :=
  ofTarget? server method (path ++ "?" ++ Form.render parameters) content

/-- The path, with what the address of the server puts in front of it; slashes at the end of that
are left out. -/
def path (r : Request) : String :=
  match r.server with
  | .localCluster => String.ofList r.target.path
  | .logicalCluster address =>
    String.ofList (((address.path.reverse.dropWhile (· == '/')).reverse) ++ r.target.path)

/-- The parameters of the query, decoded. A target without a query has none. -/
def parameters (r : Request) : List (String × String) := Form.parse (r.target.query.getD [])

end Request

/-- What a server replies: a status code, and a text that is read by whoever has asked. -/
structure Reply where
  /-- The status code, by which success is told from failure. -/
  code : Nat
  /-- The content, as text that may be no JSON at all. -/
  text : String
  deriving DecidableEq

namespace Reply

/-- A reply with a value as its content, written compactly. -/
def ofJson (code : Nat) (value : Json) : Reply := ⟨code, value.compact⟩

/-- The reply says that the request failed: its code is in the range of the client's or the server's
errors. -/
def isFailure (r : Reply) : Bool := 400 ≤ r.code && r.code < 600

end Reply

end WorkspaceAccess
