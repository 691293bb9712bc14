import WorkspaceAccess.Yaml.Place

/-!
# Scalars on Lines of Their Own

After a bar or an angle bracket a scalar stands on the following lines, indented more than what it
belongs to. How far, the first line that is not empty says, or a digit after the bar. After an angle
bracket single breaks between lines become spaces, except beside lines that begin with a blank. A
minus drops the line breaks at the end, and a plus keeps all of them; else one is left.

A scalar is read line by line. Whether the break after a line is kept is known only when the next
line has been seen, so the breaks are carried along with the text (`BlockLines`) and joined to it by
the line after them, or by the end. Texts are collected with the last character first, since they
grow at their ends.

Certificates and keys often come in this form, as do whole configurations inside of others.
-/

namespace WorkspaceAccess.Yaml

/-- What becomes of the line breaks at the end of a scalar, as a sign after the bar says. -/
inductive Chomping where
  /-- No line break is left at the end. -/
  | strip
  /-- One line break is left at the end. -/
  | clip
  /-- All line breaks are left at the end. -/
  | keep
  deriving DecidableEq

/-- What becomes of the line breaks, where a sign stands in front. -/
def chomping (s : List Char) : Chomping × List Char :=
  match s with
  | '+' :: rest => (.keep, rest)
  | '-' :: rest => (.strip, rest)
  | rest => (.clip, rest)

/-- A digit of indentation, where one stands in front; it may not be zero. -/
def indentation? (s : List Char) : Option (Option Nat × List Char) :=
  match s with
  | [] => some (none, [])
  | c :: rest =>
    if c = '0' then none
    else if c.isDigit then some (some (c.toNat - '0'.toNat), rest)
    else some (none, c :: rest)

/-- How the scalar is written, read after its bar: a sign and a digit, in either order. -/
def blockHeader? (s : List Char) : Option (Chomping × Option Nat × List Char) := do
  let (sign, rest) := chomping s
  let (digit, rest) ← indentation? rest
  if sign = .clip then
    let (sign, rest) := if digit.isSome then chomping rest else (sign, rest)
    return (sign, digit, rest)
  else return (sign, digit, rest)

/-- The place after what may end a line: blanks, a comment and a line break. -/
def afterLine? (p : Place) : Option Place :=
  let p := p.skipWhile isSpacing
  let p := if p.rest.head? = some '#' then p.skipWhile fun c => !isBreak c else p
  match p.rest with
  | [] => some p
  | c :: _ => if isBreak c then some p.afterBreak else none

/-- Reads empty lines, and the indentation of the next line up to a column if that is known. The
answer has the line breaks, the last first, and the greatest column before a break or the next
line. A tab may not stand in the indentation. -/
def emptyLines? (column : Option Nat) (breaks : List Char) (most : Nat) (p : Place) :
    Option (List Char × Nat × Place) :=
  match h : p.rest with
  | [] => some (breaks, max most p.column, p)
  | c :: _ =>
    have := Place.length_rest_next h
    have := Place.length_rest_afterBreak h
    let short := column.all fun n => p.column < n
    if c = ' ' ∧ short then emptyLines? column breaks most p.next
    else if c = '\t' ∧ short then none
    else if isBreak c then
      emptyLines? column (lineBreak c :: breaks) (max most p.column) p.afterBreak
    else some (breaks, max most p.column, p)
termination_by p.rest.length

/-- The lines of a scalar that were read, with the breaks whose fate is not yet decided. -/
structure BlockLines where
  /-- The text, the last character first. -/
  text : List Char := []
  /-- The break after the last line, if there was one. -/
  last : List Char := []
  /-- The breaks of the empty lines after it, the last first. -/
  empty : List Char := []
  /-- The last line begins with a blank. -/
  indented : Bool := false

namespace BlockLines

/-- The text with the breaks before another line. A single break becomes a space if the lines are
folded and neither line begins with a blank. -/
def joined (b : BlockLines) (folded indented : Bool) : List Char :=
  if folded && b.last == ['\n'] && !b.indented && !indented then
    (if b.empty.isEmpty then ' ' :: b.text else b.empty ++ b.text)
  else b.empty ++ b.last ++ b.text

/-- The text with the breaks at its end. -/
def finished (b : BlockLines) (sign : Chomping) : List Char :=
  (match sign with
    | .strip => b.text
    | .clip => b.last ++ b.text
    | .keep => b.empty ++ b.last ++ b.text).reverse

/-- Reads the lines that are indented up to a column, and the empty lines after each. -/
def read (folded : Bool) (column : Nat) : Nat → BlockLines → Place → Option (BlockLines × Place)
  | 0, _, _ => none
  | fuel + 1, b, p =>
    match p.rest with
    | [] => some (b, p)
    | c :: _ =>
      if p.column ≠ column then some (b, p)
      else do
        let indented := isSpacing c
        let line := p.rest.takeWhile fun c => !isBreak c
        let q := p.advance line.length
        let (last, q) := match q.rest with
          | [] => ([], q)
          | c :: _ => ([lineBreak c], q.afterBreak)
        let (empty, _, q) ← emptyLines? (some column) [] 0 q
        read folded column fuel
          ⟨line.reverse ++ b.joined folded indented, last, empty, indented⟩ q

end BlockLines

/-- The scalar after its bar, in a block with that margin, and the place after it. -/
def blockScalar? (folded : Bool) (margin : Nat) (p : Place) : Option (List Char × Place) := do
  let (sign, digit, rest) ← blockHeader? p.rest
  let p ← afterLine? (p.advance (p.rest.length - rest.length))
  let known := digit.map fun n => margin - 1 + n
  let (empty, most, p) ← emptyLines? known [] 0 p
  let column := known.getD (max most (max margin 1))
  let (b, p) ← BlockLines.read folded column (p.rest.length + 1) { empty } p
  return (b.finished sign, p)

end WorkspaceAccess.Yaml
