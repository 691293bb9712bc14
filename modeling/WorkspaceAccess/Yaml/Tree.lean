import WorkspaceAccess.Yaml.Token

/-!
# What a Document Writes

A tree is a value as it is written: with tags and anchors, and with aliases for values that stand
elsewhere. `Tree.ofTokens?` reads one from tokens. In brackets a comma may stand before the end, and
a single entry may stand for a mapping among the items of a list. In a block what is missing is an
empty scalar.

The functions follow the grammar, one for each form of a collection: items and entries in blocks,
items of a list that stands in an entry without indentation of its own, and items and entries
between brackets. All of them are structural on a bound for the number of steps, which the caller
chooses large enough for the number of tokens. What may be left out depends on where it stands
(`Tree.Context`).

Handles of tags are replaced as soon as a tag is read, so a tree has the bytes of its tags; a handle
that stands for nothing makes the document unreadable.
-/

namespace WorkspaceAccess.Yaml

/-- What is said in front of a value: by which name it can be meant elsewhere, and what it is. -/
structure Properties where
  /-- The anchor by which aliases name the value. -/
  anchor : Option String := none
  /-- The bytes of the tag. -/
  tag : Option (List UInt8) := none

/-- A value as it is written, with aliases that refer by values of type `ρ`: by names at first, and
by numbers later. -/
inductive Tree (ρ : Type) where
  /-- The value that is written elsewhere. -/
  | alias (target : ρ)
  /-- A scalar, plain or not. -/
  | scalar (properties : Properties) (plain : Bool) (text : String)
  /-- A list of values, with the properties of the list. -/
  | sequence (properties : Properties) (items : List (Tree ρ))
  /-- Values under keys, with the properties of the mapping. -/
  | mapping (properties : Properties) (entries : List (Tree ρ × Tree ρ))

namespace Tree

/-- A scalar that is not written at all, which means nothing. -/
def missing {ρ : Type} : Tree ρ := .scalar {} true ""

/-! ### Properties -/

/-- What handles of tags stand for, by name. -/
abbrev Handles := List (String × List UInt8)

/-- The handles that need no directive. -/
def standardHandles : Handles :=
  [("!", utf8Bytes "!"), ("!!", utf8Bytes "tag:yaml.org,2002:")]

/-- The bytes of a tag, if its handle stands for something. -/
def tagBytes? (handles : Handles) (t : WrittenTag) : Option (List UInt8) :=
  if t.handle = "" then some t.suffix
  else (handles.lookup t.handle).map (· ++ t.suffix)

/-- An anchor and a tag in front of a value, in either order, whether there are any, and the tokens
after them. -/
def properties? (handles : Handles) : List Token → Option (Properties × Bool × List Token)
  | .anchor name :: .tag t :: rest | .tag t :: .anchor name :: rest =>
    (tagBytes? handles t).map fun bytes => (⟨some name, some bytes⟩, true, rest)
  | .anchor name :: rest => some (⟨some name, none⟩, true, rest)
  | .tag t :: rest => (tagBytes? handles t).map fun bytes => (⟨none, some bytes⟩, true, rest)
  | rest => some ({}, false, rest)

/-- What is said in front of a scalar that is written. A lone exclamation mark says nothing. -/
def ofScalar (p : Properties) : Properties :=
  { p with tag := p.tag.filter (· ≠ utf8Bytes "!") }

/-! ### Values -/

/-- Where a value is read, which decides what may be missing and how a list may begin. -/
inductive Context where
  /-- Inside brackets or braces. -/
  | flow
  /-- In a block, which its indentation sets off. -/
  | block
  /-- In an entry of a block, where a list needs no indentation of its own. -/
  | entry
  deriving DecidableEq

/-- No value is written before this token in the given context. -/
def isMissingBefore (context : Context) (close t : Token) : Bool :=
  match context with
  | .flow => t == .comma || t == close
  | .block => t == .dash || t == .dedent
  | .entry => t == .key || t == .value || t == .dedent

/-- The tokens where an entry or the end of a collection in brackets is. The first entry needs no
comma before it. -/
def entryStart? (close : Token) (first : Bool) : List Token → Option (List Token)
  | [] => none
  | t :: rest =>
    if first || t == close then some (t :: rest)
    else if t = .comma then some rest
    else none

mutual

/-- The value that tokens begin with, and the tokens after it. -/
def ofTokens? (handles : Handles) (context : Context) :
    Nat → List Token → Option (Tree String × List Token)
  | 0, _ => none
  | _ + 1, .alias name :: rest => some (.alias name, rest)
  | fuel + 1, tokens => do
    let (p, given, tokens) ← properties? handles tokens
    match tokens with
    | .scalar plain text :: rest => return (.scalar (ofScalar p) plain text, rest)
    | .bracket :: rest => do
      let (items, rest) ← flowItems? handles true fuel rest
      return (.sequence p items, rest)
    | .brace :: rest => do
      let (entries, rest) ← flowEntries? handles true fuel rest
      return (.mapping p entries, rest)
    | t :: rest =>
      if t = .dash ∧ context = .entry then do
        let (items, rest) ← looseItems? handles fuel tokens
        return (.sequence p items, rest)
      else if t = .indentItems ∧ context ≠ .flow then do
        let (items, rest) ← blockItems? handles fuel rest
        return (.sequence p items, rest)
      else if t = .indentEntries ∧ context ≠ .flow then do
        let (entries, rest) ← blockEntries? handles fuel rest
        return (.mapping p entries, rest)
      else if given then return (.scalar p true "", tokens)
      else none
    | [] => none
termination_by structural fuel => fuel

/-- The value before one of the tokens that may follow it, which may be missing. -/
def orMissing? (handles : Handles) (context : Context) (close : Token) :
    Nat → List Token → Option (Tree String × List Token)
  | 0, _ | _, [] => none
  | fuel + 1, t :: rest =>
    if isMissingBefore context close t then some (missing, t :: rest)
    else ofTokens? handles context fuel (t :: rest)
termination_by structural fuel => fuel

/-- The value of an entry, which has a token of its own unless it is missing. -/
def entryValue? (handles : Handles) (context : Context) (close : Token) :
    Nat → List Token → Option (Tree String × List Token)
  | 0, _ | _, [] => none
  | fuel + 1, .value :: rest => orMissing? handles context close fuel rest
  | _ + 1, rest => some (missing, rest)
termination_by structural fuel => fuel

/-- The items of a block up to its end. -/
def blockItems? (handles : Handles) : Nat → List Token → Option (List (Tree String) × List Token)
  | 0, _ => none
  | _ + 1, .dedent :: rest => some ([], rest)
  | fuel + 1, .dash :: rest => do
    let (item, rest) ← orMissing? handles .block .dedent fuel rest
    let (items, rest) ← blockItems? handles fuel rest
    return (item :: items, rest)
  | _ + 1, _ => none
termination_by structural fuel => fuel

/-- The items of a list without indentation of its own, up to the first token that is no dash. -/
def looseItems? (handles : Handles) : Nat → List Token → Option (List (Tree String) × List Token)
  | 0, _ | _, [] => none
  | fuel + 1, .dash :: t :: rest => do
    let (item, rest) ←
      if t = .dash ∨ isMissingBefore .entry .dedent t then some (missing, t :: rest)
      else ofTokens? handles .block fuel (t :: rest)
    let (items, rest) ← looseItems? handles fuel rest
    return (item :: items, rest)
  | _ + 1, [.dash] => none
  | _ + 1, rest => some ([], rest)
termination_by structural fuel => fuel

/-- The entries of a block up to its end. -/
def blockEntries? (handles : Handles) :
    Nat → List Token → Option (List (Tree String × Tree String) × List Token)
  | 0, _ => none
  | _ + 1, .dedent :: rest => some ([], rest)
  | fuel + 1, .key :: rest => do
    let (key, rest) ← orMissing? handles .entry .dedent fuel rest
    let (value, rest) ← entryValue? handles .entry .dedent fuel rest
    let (entries, rest) ← blockEntries? handles fuel rest
    return ((key, value) :: entries, rest)
  | _ + 1, _ => none
termination_by structural fuel => fuel

/-- The items up to the closing bracket. The first one needs no comma before it. A single entry
without a key has nothing else: the token after its question mark is passed over. -/
def flowItems? (handles : Handles) (first : Bool) :
    Nat → List Token → Option (List (Tree String) × List Token)
  | 0, _ => none
  | fuel + 1, tokens => do
    let further (item : Tree String) (rest : List Token) :
        Option (List (Tree String) × List Token) := do
      let (items, rest) ← flowItems? handles false fuel rest
      return (item :: items, rest)
    match ← entryStart? .bracketEnd first tokens with
    | .bracketEnd :: rest => return ([], rest)
    | .key :: t :: rest => do
      let (key, rest) ←
        if t = .value ∨ isMissingBefore .flow .bracketEnd t then some (missing, rest)
        else ofTokens? handles .flow fuel (t :: rest)
      let (value, rest) ← entryValue? handles .flow .bracketEnd fuel rest
      further (.mapping {} [(key, value)]) rest
    | rest => do
      let (item, rest) ← ofTokens? handles .flow fuel rest
      further item rest
termination_by structural fuel => fuel

/-- The entries up to the closing brace. The first one needs no comma before it. -/
def flowEntries? (handles : Handles) (first : Bool) :
    Nat → List Token → Option (List (Tree String × Tree String) × List Token)
  | 0, _ => none
  | fuel + 1, tokens => do
    let further (key value : Tree String) (rest : List Token) :
        Option (List (Tree String × Tree String) × List Token) := do
      let (entries, rest) ← flowEntries? handles false fuel rest
      return ((key, value) :: entries, rest)
    match ← entryStart? .braceEnd first tokens with
    | .braceEnd :: rest => return ([], rest)
    | .key :: t :: rest => do
      let (key, rest) ←
        if t = .value ∨ isMissingBefore .flow .braceEnd t then some (missing, t :: rest)
        else ofTokens? handles .flow fuel (t :: rest)
      let (value, rest) ← entryValue? handles .flow .braceEnd fuel rest
      further key value rest
    | rest => do
      let (key, rest) ← ofTokens? handles .flow fuel rest
      further key missing rest
termination_by structural fuel => fuel

end

end Tree

end WorkspaceAccess.Yaml
