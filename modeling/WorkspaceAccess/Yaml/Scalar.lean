import WorkspaceAccess.Text.Hexadecimal
import WorkspaceAccess.Yaml.Place

/-!
# Scalars between Quotes and Plain Scalars

A line break inside such a scalar is folded: the blanks around it are dropped, a single break
becomes a space, and of several the first is dropped. Outside brackets a plain scalar ends at a line
that is indented less than what it belongs to, and in no such line may a tab be indentation.

The gap between two words is read as a whole before it is known what it stands for (`Gap`): blanks
alone stand for themselves, and once a break has been seen they count no more. The same gaps occur
in both kinds of scalars. Between double quotes a break may be escaped, and then the gap begins
without one.

A plain scalar ends at what would be something else: a colon before a gap, a comment, the end of
brackets around it, or a line of another block. What its text means is no matter here
(`WorkspaceAccess.Yaml.Meaning`).
-/

namespace WorkspaceAccess.Yaml

/-! ### Folding -/

/-- The gap between two words of a scalar, as far as it was read. -/
structure Gap where
  /-- The blanks before any line break, the last first. -/
  blanks : List Char := []
  /-- A line break was seen. -/
  broken : Bool := false
  /-- The first line break, unless it was escaped. -/
  first : Option Char := none
  /-- The further line breaks, the last first. -/
  further : List Char := []

namespace Gap

/-- The gap with one character more. -/
def push (g : Gap) (c : Char) : Gap :=
  if isBreak c then
    if g.broken then { g with further := lineBreak c :: g.further }
    else { g with broken := true, first := some (lineBreak c), blanks := [] }
  else if g.broken then g
  else { g with blanks := c :: g.blanks }

/-- What the gap stands for in the text of the scalar. -/
def text (g : Gap) : List Char :=
  if g.broken then
    match g.first, g.further with
    | some '\n', [] => [' ']
    | some '\n', further | none, further => further.reverse
    | some c, further => c :: further.reverse
  else g.blanks.reverse

/-- Reads blanks and line breaks to the next word. After a line break no tab may stand before the
margin. -/
def read (margin : Nat) (g : Gap) (p : Place) : Option (Gap × Place) :=
  match h : p.rest with
  | [] => some (g, p)
  | c :: _ =>
    have := Place.length_rest_next h
    have := Place.length_rest_afterBreak h
    if isBreak c then read margin (g.push c) p.afterBreak
    else if isSpacing c then
      if g.broken && c == '\t' && p.column < margin then none else read margin (g.push c) p.next
    else some (g, p)
termination_by p.rest.length

end Gap

/-! ### Scalars between quotes -/

/-- The character that an escape of one letter stands for. -/
def escape? : Char → Option Char
  | '0' => some '\x00'
  | 'a' => some '\x07'
  | 'b' => some '\x08'
  | 't' | '\t' => some '\t'
  | 'n' => some '\n'
  | 'v' => some '\x0b'
  | 'f' => some '\x0c'
  | 'r' => some '\r'
  | 'e' => some '\x1b'
  | ' ' => some ' '
  | '"' => some '"'
  | '/' => some '/'
  | '\\' => some '\\'
  | 'N' => some '\x85'
  | '_' => some '\xa0'
  | 'L' => some '\u2028'
  | 'P' => some '\u2029'
  | _ => none

/-- The character that an escape stands for and the length of the escape, read after its
backslash. -/
def escaped? : List Char → Option (Char × Nat)
  | 'x' :: s => (Text.numberedChar? 2 s).map (·.1, 3)
  | 'u' :: s => (Text.numberedChar? 4 s).map (·.1, 5)
  | 'U' :: s => (Text.numberedChar? 8 s).map (·.1, 9)
  | c :: _ => (escape? c).map (·, 1)
  | [] => none

/-- Reads a scalar up to its closing quote, after the characters read so far, the last first. No
mark of a document may stand inside. -/
def quoted? (quote : Char) : Nat → List Char → Place → Option (List Char × Place)
  | 0, _, _ => none
  | fuel + 1, acc, p =>
    if p.atDocumentMark then none
    else
      let afterGap (g : Gap) (p : Place) : Option (List Char × Place) := do
        let (g, p) ← g.read 0 p
        quoted? quote fuel (g.text.reverse ++ acc) p
      match p.rest with
      | [] => none
      | c :: rest =>
        if isSpacing c || isBreak c then afterGap {} p
        else if c = quote then
          if quote = '\'' ∧ rest.head? = some quote then
            quoted? quote fuel (quote :: acc) (p.advance 2)
          else some (acc.reverse, p.next)
        else if quote = '"' ∧ c = '\\' then
          if (rest.head?.map isBreak).getD false then
            afterGap { broken := true } p.next.afterBreak
          else do
            let (c, length) ← escaped? rest
            quoted? quote fuel (c :: acc) (p.advance (length + 1))
        else quoted? quote fuel (c :: acc) p.next

/-! ### Plain scalars -/

/-- A character that begins something else than a plain scalar. -/
def isIndicator (c : Char) : Bool :=
  "-?:,[]\x7b\x7d#&*!|>'\"%@\x60".toList.contains c

/-- A plain scalar begins here. -/
def beginsPlain (inFlow : Bool) : List Char → Bool
  | [] => false
  | c :: rest =>
    if c = '-' then !atGap rest
    else if c = '?' ∨ c = ':' then !inFlow && !atGap rest
    else !(isSpacing c || isBreak c || isIndicator c)

/-- What ends a word of a plain scalar, or why nothing may. -/
inductive WordEnd where
  /-- The scalar may go on here. -/
  | word
  /-- The scalar is over, and not only the word. -/
  | scalar
  /-- No scalar may have a colon here. -/
  | misplaced

/-- Whether a word of a plain scalar ends here. -/
def wordEnd? (inFlow : Bool) : List Char → Option WordEnd
  | [] => some .scalar
  | c :: rest =>
    let next := rest.head?.getD ' '
    if isSpacing c || isBreak c then some .word
    else if inFlow && c == ':' && ",?[]\x7b\x7d".toList.contains next then some .misplaced
    else if c == ':' && atGap rest then some .scalar
    else if inFlow && ",[]\x7b\x7d".toList.contains c then some .scalar
    else none

/-- Reads a plain scalar after the characters read so far, the last first. The answer is the
scalar, whether a line break was read after it, and the place after it and the gap that follows. -/
def plain? (inFlow : Bool) (margin : Nat) :
    Nat → List Char → Place → Option (List Char × Bool × Place)
  | 0, _, _ => none
  | fuel + 1, acc, p =>
    match wordEnd? inFlow p.rest with
    | some .misplaced => none
    | some .scalar => some (acc.reverse, false, p)
    | some .word => do
      let (g, q) ← Gap.read margin {} p
      if (!inFlow && q.column < margin) || q.atDocumentMark || q.rest.head? == some '#' then
        some (acc.reverse, g.broken, q)
      else match wordEnd? inFlow q.rest with
        | some .misplaced => none
        | some _ => some (acc.reverse, g.broken, q)
        | none => plain? inFlow margin fuel (g.text.reverse ++ acc) q
    | none =>
      match p.rest with
      | c :: _ => plain? inFlow margin fuel (c :: acc) p.next
      | [] => none

end WorkspaceAccess.Yaml
