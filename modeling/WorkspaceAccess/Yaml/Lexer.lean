import WorkspaceAccess.Yaml.BlockScalar
import WorkspaceAccess.Yaml.Scalar
import WorkspaceAccess.Yaml.Token

/-!
# The Tokens of a Text

What is a key is known only at its colon. So a place where a key may begin is kept in mind, and at a
colon the key's token is put in before the ones that were read since. The colon has to stand on the
line of its key and within 1024 characters. A key that is the only thing that can begin a line of a
block has to have a colon.

The margin of a block is the least column at which something inside of it may stand. Something at a
column at or beyond the margin begins a new block, whose margin is one column further. Blocks end
where a line stands before their margin, and each of them ends with a token of its own; inside
brackets indentation means nothing.

A `Lexer` is the state of all this between two tokens. Each kind of token has one function, which
fails where the token may not stand, and `Lexer.token?` chooses among them by the characters in
front.

A text that cannot be read to its end has tokens up to the first that may still become part of a
key, so that the documents before a mistake are read.
-/

namespace WorkspaceAccess.Yaml

/-- How far the colon may be from the beginning of its key, in characters. -/
def keyLimit : Nat := 1024

/-- A place where a key may have begun, as long as no colon has shown that one has. -/
structure PossibleKey where
  /-- The place where the key would begin. -/
  place : Place
  /-- The number of tokens before it. -/
  number : Nat
  /-- There has to be a key, since nothing else may begin a line there. -/
  required : Bool

namespace PossibleKey

/-- The key cannot end here any more. -/
def isOver (k : PossibleKey) (p : Place) : Bool :=
  k.place.line < p.line || k.place.index + keyLimit < p.index

end PossibleKey

/-- What was read of a text: the tokens so far, and what has to be remembered for those to come. -/
structure Lexer where
  /-- The place of what follows. -/
  place : Place
  /-- The margin of the innermost block. -/
  margin : Nat := 0
  /-- The margins of the blocks around it, the innermost first. -/
  margins : List Nat := []
  /-- The key inside the innermost brackets. -/
  key : Option PossibleKey := none
  /-- The keys around each pair of brackets, the innermost first. -/
  outerKeys : List (Option PossibleKey) := []
  /-- A key may begin here. -/
  keyAllowed : Bool := true
  /-- The tokens that have been read so far. -/
  tokens : Array Token := #[]

namespace Lexer

/-- The place is inside brackets. -/
def inFlow (l : Lexer) : Bool := !l.outerKeys.isEmpty

/-- One token more. -/
def push (l : Lexer) (t : Token) : Lexer := { l with tokens := l.tokens.push t }

/-- One token more, which so many characters write. -/
def take (l : Lexer) (t : Token) (length : Nat) : Lexer :=
  { l with tokens := l.tokens.push t, place := l.place.advance length }

/-! ### Keys -/

/-- The key without one that cannot end here any more. -/
def freshKey? (p : Place) (k : Option PossibleKey) : Option (Option PossibleKey) :=
  match k with
  | none => some none
  | some k => if k.isOver p then (if k.required then none else some none) else some (some k)

/-- Forgets all keys that cannot end here any more. -/
def dropOver? (l : Lexer) : Option Lexer := do
  let key ← freshKey? l.place l.key
  let outerKeys ← l.outerKeys.mapM (freshKey? l.place)
  return { l with key, outerKeys }

/-- Forgets the key inside the innermost brackets. -/
def dropKey? (l : Lexer) : Option Lexer :=
  if l.key.any (·.required) then none else some { l with key := none }

/-- Keeps in mind that a key may begin here. -/
def keepKey? (l : Lexer) : Option Lexer :=
  if l.keyAllowed then do
    let l ← l.dropKey?
    let required := !l.inFlow && l.margin == l.place.column + 1
    return { l with key := some ⟨l.place, l.tokens.size, required⟩ }
  else some l

/-! ### Blocks -/

/-- Begins a block at a column that the innermost one leaves, with its token at that number.
Otherwise nothing changes. -/
def indent (l : Lexer) (column number : Nat) (t : Token) : Lexer :=
  if !l.inFlow && l.margin ≤ column then
    { l with
      margin := column + 1, margins := l.margin :: l.margins
      tokens := l.tokens.insertIdxIfInBounds number t }
  else l

/-- The number of blocks whose margin is beyond a limit, and the margins of the others. -/
def closing (limit margin : Nat) : List Nat → Nat × Nat × List Nat
  | [] => (0, margin, [])
  | m :: rest =>
    if limit < margin then
      let (n, margins) := closing limit m rest
      (n + 1, margins)
    else (0, margin, m :: rest)

/-- Ends the blocks whose margin is beyond a limit. -/
def dedent (l : Lexer) (limit : Nat) : Lexer :=
  if l.inFlow then l
  else
    let (n, margin, margins) := closing limit l.margin l.margins
    { l with margin, margins, tokens := l.tokens ++ Array.replicate n Token.dedent }

/-- Ends all blocks, where no key may begin. -/
def dedentAll? (l : Lexer) : Option Lexer := do
  let l ← (l.dedent 0).dropKey?
  return { l with keyAllowed := false }

/-! ### Tokens -/

/-- A directive and the rest of its line. -/
def directive? (l : Lexer) : Option Lexer := do
  let l ← l.dedentAll?
  let (content, rest) ← Directive.read? l.place.rest.tail
  let place ← afterLine? (l.place.advance (l.place.rest.length - rest.length))
  return { l.push (.directive content) with place }

/-- An opening bracket or brace. -/
def opening? (l : Lexer) (t : Token) : Option Lexer := do
  let l ← l.keepKey?
  return { l.take t 1 with key := none, outerKeys := l.key :: l.outerKeys, keyAllowed := true }

/-- A closing bracket or brace. -/
def closing? (l : Lexer) (t : Token) : Option Lexer := do
  let l ← l.dropKey?
  let l := { l.take t 1 with keyAllowed := false }
  match l.outerKeys with
  | [] => return l
  | key :: outerKeys => return { l with key, outerKeys }

/-- A comma. -/
def comma? (l : Lexer) : Option Lexer := do
  let l ← l.dropKey?
  return { l.take .comma 1 with keyAllowed := true }

/-- A token that begins a block, or goes on with it, where a key may begin. -/
def blockToken? (l : Lexer) (block t : Token) : Option Lexer :=
  if l.inFlow then some (l.take t 1)
  else if l.keyAllowed then
    some ((l.indent l.place.column l.tokens.size block).take t 1)
  else none

/-- The dash of an item. -/
def dash? (l : Lexer) : Option Lexer := do
  let l ← (← l.blockToken? .indentItems .dash).dropKey?
  return { l with keyAllowed := true }

/-- The question mark of a key. -/
def question? (l : Lexer) : Option Lexer := do
  let l ← (← l.blockToken? .indentEntries .key).dropKey?
  return { l with keyAllowed := !l.inFlow }

/-- The colon of a value. The key that may have begun before is one. -/
def colon? (l : Lexer) : Option Lexer :=
  match l.key with
  | some k =>
    let l := { l with tokens := l.tokens.insertIdxIfInBounds k.number .key }
    let l := l.indent k.place.column k.number .indentEntries
    some { l.take .value 1 with key := none, keyAllowed := false }
  | none => do
    let l ← l.blockToken? .indentEntries .value
    return { l with keyAllowed := !l.inFlow }

/-- An alias or an anchor, by its name. -/
def named? (l : Lexer) (t : String → Token) : Option Lexer := do
  let l ← l.keepKey?
  let (name, rest) ← anchorName? l.place.rest.tail
  return { l.take (t name) (l.place.rest.length - rest.length) with keyAllowed := false }

/-- A tag. -/
def tag? (l : Lexer) : Option Lexer := do
  let l ← l.keepKey?
  let (content, rest) ← Tag.written? l.place.rest.tail
  if Tag.mayFollow l.inFlow rest then
    return { l.take (.tag content) (l.place.rest.length - rest.length) with keyAllowed := false }
  else none

/-- A scalar on lines of its own. -/
def block? (l : Lexer) (folded : Bool) : Option Lexer := do
  let l ← l.dropKey?
  let (text, place) ← blockScalar? folded l.margin l.place.next
  return { l.push (.scalar false (String.ofList text)) with place, keyAllowed := true }

/-- A scalar between quotes. -/
def quotes? (l : Lexer) (quote : Char) : Option Lexer := do
  let l ← l.keepKey?
  let (text, place) ← quoted? quote (l.place.rest.length + 1) [] l.place.next
  return { l.push (.scalar false (String.ofList text)) with place, keyAllowed := false }

/-- A plain scalar. A key may begin after it if a line break was read. -/
def plainScalar? (l : Lexer) : Option Lexer := do
  let l ← l.keepKey?
  let (text, broken, place) ← plain? l.inFlow l.margin (l.place.rest.length + 1) [] l.place
  return { l.push (.scalar true (String.ofList text)) with place, keyAllowed := broken }

/-- The end of the text. -/
def textEnd? (l : Lexer) : Option Lexer := do
  let l ← l.dedentAll?
  return l.push .textEnd

/-- Reads the token at the place, by the characters in front. -/
def token? (l : Lexer) : Option Lexer :=
  match l.place.rest with
  | [] => l.textEnd?
  | c :: rest =>
    if c = '%' ∧ l.place.column = 0 then l.directive?
    else if l.place.atMark '-' then do return (← l.dedentAll?).take .documentStart 3
    else if l.place.atMark '.' then do return (← l.dedentAll?).take .documentEnd 3
    else match c with
      | '[' => l.opening? .bracket
      | '{' => l.opening? .brace
      | ']' => l.closing? .bracketEnd
      | '}' => l.closing? .braceEnd
      | ',' => l.comma?
      | '*' => l.named? .alias
      | '&' => l.named? .anchor
      | '!' => l.tag?
      | '"' => l.quotes? c
      | '\'' => l.quotes? c
      | _ =>
        if c = '-' ∧ atGap rest then l.dash?
        else if c = '?' ∧ (l.inFlow ∨ atGap rest) then l.question?
        else if c = ':' ∧ (l.inFlow ∨ atGap rest) then l.colon?
        else if c = '|' ∧ !l.inFlow then l.block? false
        else if c = '>' ∧ !l.inFlow then l.block? true
        else if beginsPlain l.inFlow (c :: rest) then l.plainScalar?
        else none

/-- Reads the next token, after the blanks before it and the blocks that end there. -/
def next? (l : Lexer) : Option Lexer := do
  let (place, keyAllowed) := l.place.skip l.inFlow false l.keyAllowed
  let l ← { l with place, keyAllowed }.dropOver?
  (← (l.dedent (l.place.column + 1)).token?).dropOver?

/-- The tokens that no key can come before any more, which are the ones that may be used. -/
def settled (l : Lexer) : List Token :=
  let unsettled := (l.key :: l.outerKeys).filterMap fun k => k.map (·.number)
  l.tokens.toList.take (unsettled.foldl min l.tokens.size)

/-- Reads all tokens, with a bound on their number. -/
def readAll : Nat → Lexer → List Token
  | 0, l => l.settled
  | fuel + 1, l =>
    if l.tokens.back? = some .textEnd then l.tokens.toList
    else match l.next? with
      | some l => readAll fuel l
      | none => l.settled

end Lexer

/-- The tokens of a text, up to its end or to what cannot be read. -/
def Token.ofText (s : List Char) : List Token :=
  Lexer.readAll (s.length + 2) { place := { rest := s } }

end WorkspaceAccess.Yaml
