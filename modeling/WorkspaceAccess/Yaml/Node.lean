import WorkspaceAccess.Yaml.Number

/-!
# Values of Documents

A node is a value of a document. It may have a tag of the writer's own. The keys of a mapping may be
any nodes; in a JSON value they are texts, and nothing has a tag (`Node.isJson`). Two mappings are
the same if they have the same entries, in whatever order (`Node.same`), and this is the sense in
which no mapping may repeat a key.

Equality of nodes is therefore not that of their trees, and it is decided by a recursion over both
values. Numbers are compared as numbers, with the one that is none unequal even to itself in
arithmetic but held in a single form here.
-/

namespace WorkspaceAccess.Yaml

/-- A value of a document, with mappings as lists of entries in the order in which they were
written. -/
inductive Node where
  /-- No value, in whatever way that is written. -/
  | null
  /-- A truth value, `true` or `false`. -/
  | bool (b : Bool)
  /-- A whole number, of either sign. -/
  | integer (n : Int)
  /-- A number of double precision. -/
  | float (x : Float64)
  /-- A text, whatever way it was written. -/
  | string (s : String)
  /-- A list of values, in order. -/
  | sequence (items : List Node)
  /-- Values under keys, in the order in which they stand. -/
  | mapping (entries : List (Node × Node))
  /-- A value under a tag. -/
  | tagged (tag : String) (node : Node)
  deriving Inhabited

namespace Node

mutual

/-- The nodes are the same, up to the order of entries. -/
def same : Node → Node → Bool
  | null, null => true
  | bool a, bool b => a == b
  | integer a, integer b => a == b
  | float a, float b => a == b
  | string a, string b => a == b
  | sequence a, sequence b => sameItems a b
  | mapping a, mapping b => a.length == b.length && areAmong a b
  | tagged t a, tagged u b => t == u && same a b
  | _, _ => false

/-- The lists have the same items in the same order. -/
def sameItems : List Node → List Node → Bool
  | [], [] => true
  | a :: as, b :: bs => same a b && sameItems as bs
  | _, _ => false

/-- Each of the entries is one of the others. -/
def areAmong : List (Node × Node) → List (Node × Node) → Bool
  | [], _ => true
  | (k, v) :: rest, others =>
    (others.any fun o => same k o.1 && same v o.2) && areAmong rest others

end

/-- A key occurs twice among the entries, which no mapping may have. -/
def repeatsKey : List (Node × Node) → Bool
  | [] => false
  | e :: rest => (rest.any fun o => same e.1 o.1) || repeatsKey rest

/-- The value without its tag. -/
def untag : Node → Node
  | tagged _ node => node
  | node => node

/-- The text, if the value without its tag is one. -/
def text? (node : Node) : Option String :=
  match node.untag with
  | string s => some s
  | _ => none

mutual

/-- All keys inside the node are texts, and no value has a tag, so the node is a value of JSON. -/
def isJson : Node → Bool
  | sequence items => areJson items
  | mapping entries => entriesAreJson entries
  | tagged _ _ => false
  | _ => true

/-- The nodes are of that form. -/
def areJson : List Node → Bool
  | [] => true
  | node :: rest => isJson node && areJson rest

/-- The entries are of that form. -/
def entriesAreJson : List (Node × Node) → Bool
  | [] => true
  | (key, node) :: rest => key.text?.isSome && isJson node && entriesAreJson rest

end

end Node

end WorkspaceAccess.Yaml
