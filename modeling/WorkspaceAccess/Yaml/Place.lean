/-!
# Places in a Document

A place is what is left of a text together with how much was read: the number of characters, the
number of lines, and the column. Between the tokens of a document stand blanks, line breaks and
comments. Where a key could begin, a tab is no blank; a byte order mark at the beginning of a line
is one.

All functions that read a document take a place and answer with a later one, and the recursions
among them that are not on fuel end because the text that is left becomes shorter. A carriage return
and a line feed together are one break, though two characters, so going past a break is an operation
of its own.

## Main results

* `Place.rest_next`: going one character further drops that character from what is left.
* `Place.length_rest_next`, `Place.length_rest_afterBreak`: where there is a character, less is left
  after it, and less after the break that it begins. The recursions over places end by these two.
-/

namespace WorkspaceAccess.Yaml

/-- The character may occur in a document: all but the controls, the tab and line breaks apart,
and the two last of the first plane. -/
def isPermitted (c : Char) : Bool :=
  let n := c.toNat
  n == 0x09 || n == 0x0A || n == 0x0D || (0x20 ≤ n && n ≤ 0x7E) || n == 0x85 ||
    (0xA0 ≤ n && n ≤ 0xFFFD) || 0x10000 ≤ n

/-- The character ends a line. Five characters do. -/
def isBreak (c : Char) : Bool :=
  c == '\n' || c == '\r' || c == '\x85' || c == '\u2028' || c == '\u2029'

/-- The character is a space or a tab. -/
def isSpacing (c : Char) : Bool := c == ' ' || c == '\t'

/-- A blank, a line break or the end stands in front. -/
def atGap : List Char → Bool
  | [] => true
  | c :: _ => isSpacing c || isBreak c

/-- The character that a line break counts as. -/
def lineBreak (c : Char) : Char := if c == '\u2028' || c == '\u2029' then c else '\n'

/-- A place in a text, with the text that follows it. -/
structure Place where
  /-- What is left of the text. -/
  rest : List Char
  /-- How many characters were read. -/
  index : Nat := 0
  /-- How many lines were read. -/
  line : Nat := 0
  /-- How many characters of the line were read. -/
  column : Nat := 0

namespace Place

/-- The place after the next character. A carriage return before a line feed is no break of its
own. -/
def next (p : Place) : Place :=
  match p.rest with
  | [] => p
  | c :: rest =>
    if isBreak c && !(c == '\r' && rest.head? == some '\n') then
      ⟨rest, p.index + 1, p.line + 1, 0⟩
    else ⟨rest, p.index + 1, p.line, p.column + 1⟩

/-- The place after so many characters. -/
def advance (p : Place) : Nat → Place
  | 0 => p
  | n + 1 => p.next.advance n

/-- Going one character further drops that character from what is left. -/
theorem rest_next (p : Place) : p.next.rest = p.rest.tail := by
  unfold next
  split
  · rename_i h; simp [h]
  · rename_i h; split <;> simp [h]

/-- Less is left after a character than before it. -/
theorem length_rest_next {p : Place} {c : Char} {r : List Char} (h : p.rest = c :: r) :
    p.next.rest.length < p.rest.length := by
  simp [rest_next, h]

/-- The place after a line break; a carriage return and a line feed are one. -/
def afterBreak (p : Place) : Place :=
  if p.rest.take 2 == ['\r', '\n'] then p.next.next else p.next

/-- Less is left after a line break than before it, whether the break is one character or two. -/
theorem length_rest_afterBreak {p : Place} {c : Char} {r : List Char} (h : p.rest = c :: r) :
    p.afterBreak.rest.length < p.rest.length := by
  have hn := length_rest_next h
  unfold afterBreak
  split
  · have : p.next.next.rest.length ≤ p.next.rest.length := by simp [rest_next]
    omega
  · exact hn

/-- The place after the characters that pass a test. -/
def skipWhile (test : Char → Bool) (p : Place) : Place := p.advance (p.rest.takeWhile test).length

/-- The mark of that character, three times in a row at the beginning of a line. -/
def atMark (p : Place) (c : Char) : Bool :=
  p.column == 0 && p.rest.take 3 == [c, c, c] && atGap (p.rest.drop 3)

/-- A mark that begins or ends a document. -/
def atDocumentMark (p : Place) : Bool := p.atMark '-' || p.atMark '.'

/-- The place of the next token, from inside a comment or not, and whether a key may begin there.
Inside brackets tabs are blanks; outside they are where no key may begin, and on every new line a
key may. -/
def skip (inFlow comment keyAllowed : Bool) (p : Place) : Place × Bool :=
  match h : p.rest with
  | [] => (p, keyAllowed)
  | c :: _ =>
    have := length_rest_next h
    if isBreak c then skip inFlow false (keyAllowed || !inFlow) p.next
    else if comment || c = '#' then skip inFlow true keyAllowed p.next
    else if c = ' ' || (c = '\t' && (inFlow || !keyAllowed)) || (c = '\ufeff' && p.column = 0) then
      skip inFlow false keyAllowed p.next
    else (p, keyAllowed)
termination_by p.rest.length

end Place

end WorkspaceAccess.Yaml
