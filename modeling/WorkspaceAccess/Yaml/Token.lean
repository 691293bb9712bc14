import WorkspaceAccess.Yaml.Tag

/-!
# Tokens of a Document

A document in blocks and one in brackets have the same tokens, in that the lexer turns the
indentation of lines into tokens where a block begins and ends. So the grammar of trees
(`WorkspaceAccess.Yaml.Tree`) never looks at columns, and what may stand where is decided by the
order of tokens alone.

A token for a key stands before every key of a mapping, also where only its colon shows that it is
one, and a token for a value stands before the value. What belongs to a value, its anchor and its
tag, are tokens of their own in front of it.
-/

namespace WorkspaceAccess.Yaml

/-- A token of a text of documents. -/
inductive Token where
  /-- A directive for the next document. -/
  | directive (content : Directive)
  /-- The mark that begins a document. -/
  | documentStart
  /-- The mark that ends a document. -/
  | documentEnd
  /-- The end of the text. -/
  | textEnd
  /-- A block of items begins. -/
  | indentItems
  /-- A block of entries begins. -/
  | indentEntries
  /-- A block ends, as a line is less indented. -/
  | dedent
  /-- An opening bracket, of a list in brackets. -/
  | bracket
  /-- A closing bracket, of a list in brackets. -/
  | bracketEnd
  /-- An opening brace, of a mapping in braces. -/
  | brace
  /-- A closing brace, of a mapping in braces. -/
  | braceEnd
  /-- The dash before an item. -/
  | dash
  /-- The comma between items or entries. -/
  | comma
  /-- A key follows. -/
  | key
  /-- The value of a key follows. -/
  | value
  /-- The value under an anchor. -/
  | alias (name : String)
  /-- A name for the value that follows. -/
  | anchor (name : String)
  /-- The tag of the value that follows. -/
  | tag (content : WrittenTag)
  /-- A scalar, plain or not. -/
  | scalar (plain : Bool) (text : String)
  deriving DecidableEq

end WorkspaceAccess.Yaml
