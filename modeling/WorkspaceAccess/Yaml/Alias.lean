import WorkspaceAccess.Yaml.Meaning
import WorkspaceAccess.Yaml.Tree

/-!
# From What Is Written to Values

An alias stands for the value under the anchor of its name. Anchors are numbered by how many names
there were before, and an alias has the number that its name had last; it stands for the last value
of that number in the whole document. So the meaning of an alias is not always that of the anchor
before it: a number is given again when a name is used again. What counts is what existing texts are
read as.

The tree is walked twice. `Tree.link` numbers the aliases in the order of the text, and `Tree.node`
follows them and gives scalars their meaning.

Values may be at most 128 levels deep, and an alias may be followed at most a hundred times as often
as a document has parts, so that no alias inside its own value is followed without end. The second
bound counts across the whole document (`Tree.Following`), since few aliases inside each other
suffice for a value of enormous size.
-/

namespace WorkspaceAccess.Yaml

/-- How deep values may be; a deeper one makes the document unreadable. -/
def depthLimit : Nat := 128

namespace Tree

/-! ### Aliases -/

/-- The anchors of a document, as far as it was read. -/
structure Anchors where
  /-- The numbers of the names. -/
  numbers : List (String × Nat) := []
  /-- The places of the values with numbers, the last first. -/
  values : List (Nat × Nat) := []
  /-- How many values were read. -/
  place : Nat := 0

/-- One value more, which may have an anchor. -/
def Anchors.next (a : Anchors) (p : Properties) : Anchors :=
  match p.anchor with
  | none => { a with place := a.place + 1 }
  | some name =>
    let number := a.numbers.length
    { numbers := (name, number) :: a.numbers.filter (·.1 ≠ name)
      values := (number, a.place) :: a.values
      place := a.place + 1 }

mutual

/-- The tree with the numbers of its aliases. -/
def link (a : Anchors) : Tree String → Option (Tree Nat × Anchors)
  | .alias name => do
    return (.alias (← a.numbers.lookup name), { a with place := a.place + 1 })
  | .scalar p plain text => some (.scalar p plain text, a.next p)
  | .sequence p items => do
    let (items, a) ← linkItems (a.next p) items
    return (.sequence p items, a)
  | .mapping p entries => do
    let (entries, a) ← linkEntries (a.next p) entries
    return (.mapping p entries, a)

/-- The items with the numbers of their aliases. -/
def linkItems (a : Anchors) : List (Tree String) → Option (List (Tree Nat) × Anchors)
  | [] => some ([], a)
  | t :: rest => do
    let (t, a) ← link a t
    let (rest, a) ← linkItems a rest
    return (t :: rest, a)

/-- The entries with the numbers of their aliases. -/
def linkEntries (a : Anchors) :
    List (Tree String × Tree String) → Option (List (Tree Nat × Tree Nat) × Anchors)
  | [] => some ([], a)
  | (key, value) :: rest => do
    let (key, a) ← link a key
    let (value, a) ← link a value
    let (rest, a) ← linkEntries a rest
    return ((key, value) :: rest, a)

end

variable {ρ : Type}

mutual

/-- All values of a tree, each before the ones inside of it. -/
def values : Tree ρ → List (Tree ρ)
  | .sequence p items => .sequence p items :: itemValues items
  | .mapping p entries => .mapping p entries :: entryValues entries
  | t => [t]

/-- All values of the items. -/
def itemValues : List (Tree ρ) → List (Tree ρ)
  | [] => []
  | t :: rest => values t ++ itemValues rest

/-- All values of the entries. -/
def entryValues : List (Tree ρ × Tree ρ) → List (Tree ρ)
  | [] => []
  | (key, value) :: rest => values key ++ values value ++ entryValues rest

end

/-- The parts of a value: a collection has a beginning and an end. -/
def parts : Tree ρ → Nat
  | .sequence .. | .mapping .. => 2
  | _ => 1

/-! ### Values -/

/-- Counts down at each alias that is followed, and fails when none may be followed any more. -/
abbrev Following := StateT Nat Option

/-- The value that an alias stands for. -/
def follow (target? : Nat → Option (Tree Nat)) : Tree Nat → Following (Tree Nat × Bool)
  | .alias number => do
    let left ← get
    if left = 0 then failure
    else
      set (left - 1)
      return (← target? number, true)
  | t => return (t, false)

/-- The value of a tree with values of at most so many levels. A key of a mapping with a tag is read
as if it had one already, and then its own tag says nothing. -/
def node (target? : Nat → Option (Tree Nat)) : Nat → Bool → Tree Nat → Following Node
  | depth, hasTag, t => do
    let (t, followed) ← follow target? t
    let hasTag := hasTag && !followed
    let wrap (p : Properties) (content : Bool → Following Node) : Following Node :=
      match if hasTag then none else (p.tag.map Tag.ofBytes).bind Tag.own? with
      | some name => return .tagged name (← content true)
      | none => content hasTag
    match t, depth with
    | .scalar p plain text, _ =>
      wrap p fun hasTag =>
        scalar? (if hasTag then none else p.tag.map Tag.ofBytes) plain text
    | .sequence p items, depth + 1 =>
      wrap p fun _ => return .sequence (← items.mapM (node target? depth false))
    | .mapping p entries, depth + 1 =>
      wrap p fun hasTag => do
        let entries ← entries.mapM fun (key, value) => do
          return (← node target? depth hasTag key, ← node target? depth false value)
        if Node.repeatsKey entries then failure else return .mapping entries
    | _, _ => failure

end Tree

/-- The value that a tree writes, if all its aliases and scalars mean something. -/
def Node.ofTree? (t : Tree String) : Option Node := do
  let (t, anchors) ← t.link {}
  let values := t.values.toArray
  let target? (number : Nat) : Option (Tree Nat) := do values[← anchors.values.lookup number]?
  let parts := values.foldl (fun total value => total + value.parts) 0
  (t.node target? depthLimit false).run' (100 * parts)

end WorkspaceAccess.Yaml
