import WorkspaceAccess.Yaml.Alias
import WorkspaceAccess.Yaml.Lexer

/-!
# Documents

A text may hold several documents, each but the first after a mark; directives stand before the
mark. A text without any is one document without a value. A document can be read as soon as it is
known what follows it, whatever is wrong further on: the answer has the values of the documents that
could be read, and whether the text could be read to its end.

This is the last of the steps by which a text becomes values. `WorkspaceAccess.Yaml.Lexer` makes
tokens from the text, `WorkspaceAccess.Yaml.Tree` makes trees from the tokens of one document, and
`WorkspaceAccess.Yaml.Alias` makes values from the trees; here documents are told apart, and their
directives are applied to the tags inside of them. Directives hold for one document only.
-/

namespace WorkspaceAccess.Yaml

/-- What the directives of a document say: nothing, to begin with. -/
structure Preamble where
  /-- The version was given, which may be done once. -/
  versioned : Bool := false
  /-- The handles that were given. -/
  handles : Tree.Handles := []

namespace Preamble

/-- One directive more. The version has to be 1.1 or 1.2, and nothing may be given twice. -/
def add? (p : Preamble) : Directive → Option Preamble
  | .version major minor =>
    if !p.versioned && major = 1 && (minor = 1 || minor = 2) then
      some { p with versioned := true }
    else none
  | .handle name start =>
    if p.handles.any (·.1 == name) then none
    else some { p with handles := p.handles ++ [(name, start)] }

/-- All handles of the document. -/
def allHandles (p : Preamble) : Tree.Handles := p.handles ++ Tree.standardHandles

/-- The directives in front of the mark of a document, and the tokens after the mark. -/
def ofTokens? (p : Preamble) : List Token → Option (Preamble × List Token)
  | .directive d :: rest => do ofTokens? (← p.add? d) rest
  | .documentStart :: rest => some (p, rest)
  | _ => none

end Preamble

/-- A document has no content before this token. -/
def isContentMissingBefore : Token → Bool
  | .directive _ | .documentStart | .documentEnd | .textEnd => true
  | _ => false

/-- The content of a document, and the tokens after its end. After the mark of a document the
content may be missing. -/
def content? (handles : Tree.Handles) (marked : Bool) :
    List Token → Option (Tree String × List Token)
  | [] => none
  | t :: rest => do
    let (tree, rest) ←
      if marked && isContentMissingBefore t then some (.missing, t :: rest)
      else Tree.ofTokens? handles .block (4 * rest.length + 8) (t :: rest)
    match rest with
    | [] => none
    | .documentEnd :: rest => return (tree, rest)
    | rest => return (tree, rest)

/-- The values of the documents from these tokens on, of which the first needs no mark before it,
and whether all could be read. -/
def documentsAt (first : Bool) : Nat → List Token → List Node × Bool
  | 0, _ => ([], false)
  | fuel + 1, tokens =>
    let documents (content : Option (Tree String × List Token)) : List Node × Bool :=
      match content.bind fun c => (Node.ofTree? c.1).map (·, c.2) with
      | none => ([], false)
      | some (node, rest) =>
        let (nodes, complete) := documentsAt false fuel rest
        (node :: nodes, complete)
    match tokens with
    | .textEnd :: _ => (if first then [.null] else [], true)
    | .directive _ :: _ | .documentStart :: _ =>
      documents do
        let (p, rest) ← Preamble.ofTokens? {} tokens
        content? p.allHandles true rest
    | .documentEnd :: rest => if first then ([], false) else documentsAt false fuel rest
    | tokens =>
      if first then documents (content? Tree.standardHandles false tokens) else ([], false)

/-- The values of the documents of a text, and whether it could be read to its end. A text with a
character that may not occur has none. -/
def documents (text : String) : List Node × Bool :=
  let s := text.toList
  if s.all isPermitted then
    let tokens := Token.ofText s
    documentsAt true (tokens.length + 1) tokens
  else ([], false)

end WorkspaceAccess.Yaml
