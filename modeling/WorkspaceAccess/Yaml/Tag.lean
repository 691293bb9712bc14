import WorkspaceAccess.KeyOrder
import WorkspaceAccess.Text.Hexadecimal
import WorkspaceAccess.Yaml.Place

/-!
# Tags, Anchors and Directives

A tag says what a value is. It is written whole between angle brackets, or as a handle between
exclamation marks and a suffix; a directive says what a handle stands for. Words, by which handles
and anchors are named, consist of letters and digits of ASCII, dashes and underlines.

Tags are sequences of bytes and not texts, since escapes in them write bytes, which come in the
number that the first of them calls for but need not make up a character. What a tag says is decided
when its handle has been replaced, in `WorkspaceAccess.Yaml.Meaning`.

Of directives there are two, for the version and for handles. Any other one makes the document
unreadable, and so does a version with more digits than nine.
-/

namespace WorkspaceAccess.Yaml

/-- The character may stand in a word. -/
def isWordChar (c : Char) : Bool := c.isAlphanum || c == '-' || c == '_'

/-- A tag as it is written: the suffix of a handle, or all of it if the handle is empty. -/
structure WrittenTag where
  /-- The handle with its exclamation marks. -/
  handle : String
  /-- The bytes after the handle. -/
  suffix : List UInt8
  deriving DecidableEq

/-- A directive, which stands in front of a document. -/
inductive Directive where
  /-- The document is written in that version. -/
  | version (major minor : Nat)
  /-- A handle stands for the bytes that its tags begin with. -/
  | handle (name : String) (start : List UInt8)
  deriving DecidableEq

namespace Tag

/-- The character may stand in a tag; commas and brackets only where the tag is written whole. -/
def isTagChar (whole : Bool) (c : Char) : Bool :=
  isWordChar c || ";/?:@&=+$.!~*'()".toList.contains c || (whole && ",[]".toList.contains c)

/-- The byte that a percent sign and two digits write. -/
def escapedByte? : List Char → Option (Nat × List Char)
  | '%' :: a :: b :: rest => (Text.hexNumber? [a, b]).map (·, rest)
  | _ => none

/-- So many escaped bytes that continue a character. -/
def continuation? : Nat → List Char → Option (List UInt8 × List Char)
  | 0, s => some ([], s)
  | n + 1, s => do
    let (b, s) ← escapedByte? s
    if b / 64 = 2 then
      let (bytes, s) ← continuation? n s
      return (b.toUInt8 :: bytes, s)
    else none

/-- The number of bytes that continue a character after its first byte, if that can begin one. -/
def continuationLength? (b : Nat) : Option Nat :=
  if b < 0x80 then some 0
  else if b / 32 = 6 then some 1
  else if b / 16 = 14 then some 2
  else if b / 8 = 30 then some 3
  else none

/-- The characters of a tag in front of a text, as bytes, and the text after them. Bytes that are
escaped come in the number that their first one calls for. -/
def bytes? (whole : Bool) : Nat → List Char → Option (List UInt8 × List Char)
  | 0, _ => none
  | fuel + 1, s =>
    match s with
    | '%' :: _ => do
      let (b, s) ← escapedByte? s
      let (more, s) ← continuation? (← continuationLength? b) s
      let (bytes, s) ← bytes? whole fuel s
      return (b.toUInt8 :: more ++ bytes, s)
    | c :: rest =>
      if isTagChar whole c then do
        let (bytes, s) ← bytes? whole fuel rest
        return (utf8Bytes c.toString ++ bytes, s)
      else some ([], c :: rest)
    | [] => some ([], [])

/-- What counts of the bytes of a tag: a zero byte ends it. -/
def untilZero (bytes : List UInt8) : List UInt8 := bytes.takeWhile (· ≠ 0)

/-- At least one character of a tag. -/
def someBytes? (whole : Bool) (s : List Char) : Option (List UInt8 × List Char) :=
  match bytes? whole (s.length + 1) s with
  | some (b :: bytes, rest) => some (untilZero (b :: bytes), rest)
  | _ => none

/-- A word between exclamation marks, read after the first one. -/
def word? (s : List Char) : Option (List Char × List Char) :=
  let word := s.takeWhile isWordChar
  match s.drop word.length with
  | '!' :: rest => some (word, rest)
  | _ => none

/-- The handle of a word. -/
def handle (word : List Char) : String := "!" ++ String.ofList word ++ "!"

/-- The tag after its first exclamation mark, and the text after it. A lone exclamation mark is a
whole tag. -/
def written? (s : List Char) : Option (WrittenTag × List Char) :=
  match s with
  | '<' :: rest => do
    match ← someBytes? true rest with
    | (suffix, '>' :: rest) => return (⟨"", suffix⟩, rest)
    | _ => none
  | _ =>
    match word? s with
    | some (word, rest) => do
      let (suffix, rest) ← someBytes? false rest
      return (⟨handle word, suffix⟩, rest)
    | none => do
      let (bytes, rest) ← bytes? false (s.length + 1) s
      let suffix := untilZero bytes
      return (if suffix.isEmpty then ⟨"", ['!'.toNat.toUInt8]⟩ else ⟨"!", suffix⟩, rest)

/-- The text after a tag or an anchor may go on like this: with a gap, or inside brackets with a
comma. -/
def mayFollow (inFlow : Bool) (s : List Char) : Bool := atGap s || (inFlow && s.head? == some ',')

end Tag

/-- The name of an anchor in front of a text, and the text after it. -/
def anchorName? (s : List Char) : Option (String × List Char) :=
  let name := s.takeWhile isWordChar
  let rest := s.drop name.length
  if !name.isEmpty && (atGap rest || (rest.head?.any fun c => "?:,]\x7d%@\x60".toList.contains c))
  then some (String.ofList name, rest)
  else none

namespace Directive

/-- A number of a version: at most nine digits. -/
def number? (s : List Char) : Option (Nat × List Char) :=
  let digits := s.takeWhile Char.isDigit
  if digits.isEmpty || 9 < digits.length then none
  else some (digits.foldl (fun n c => n * 10 + (c.toNat - '0'.toNat)) 0, s.drop digits.length)

/-- A version: two numbers with a point between them. -/
def version? (s : List Char) : Option (Directive × List Char) := do
  match ← number? s with
  | (major, '.' :: rest) =>
    let (minor, rest) ← number? rest
    return (version major minor, rest)
  | _ => none

/-- A handle and what it stands for, with blanks between them. -/
def handle? (s : List Char) : Option (Directive × List Char) := do
  let (name, rest) ← match s with
    | '!' :: rest =>
      match Tag.word? rest with
      | some (word, rest) => some (Tag.handle word, rest)
      | none => if (rest.head?.any isWordChar) then none else some ("!", rest)
    | _ => none
  if rest.head?.any isSpacing then
    let (start, rest) ← Tag.someBytes? true (rest.dropWhile isSpacing)
    if atGap rest then return (handle name start, rest) else none
  else none

/-- The directive after its percent sign, and the text after it. -/
def read? (s : List Char) : Option (Directive × List Char) :=
  let name := s.takeWhile isWordChar
  let rest := s.drop name.length
  let value := rest.dropWhile isSpacing
  if !atGap rest then none
  else if name = "YAML".toList then version? value
  else if name = "TAG".toList then handle? value
  else none

end Directive

end WorkspaceAccess.Yaml
