import WorkspaceAccess.Text.Base64
import WorkspaceAccess.Text.Blank
import WorkspaceAccess.Text.Parts

/-!
# Sections of Binary Data in Texts

Certificates and keys are kept in texts, each as a section between a line that begins it and one
that ends it. A section has a tag, which both lines name, maybe headers up to an empty line, and its
data to base 64. What stands between sections is passed over, and so is a section without an end.

The markers are searched for byte by byte. `seek?` goes through the bytes once and keeps no more
than its place in the marker: a byte that is not the expected one starts the search afresh and is
not looked at a second time. A marker that begins inside a failed attempt is thereby missed, which
is how such texts are read in practice, so it is kept here.

A section that is written need not be readable. `sections?` demands that all are: both tags agree,
the data are digits to base 64 apart from blanks at the ends of the lines, and every header has a
colon. One section that is not readable makes the whole text unreadable, in place of being passed
over.
-/

namespace WorkspaceAccess.Pem

/-- The bytes of an ASCII text. -/
def ascii (s : String) : List UInt8 := s.toList.map fun c => c.toNat.toUInt8

/-- Looks for a marker of which `left` is still to come, after the bytes passed over so far, the
last first. The answer is what stands before the marker and what stands after it. A byte that is not
the expected one starts the search afresh, and does not count as a first byte itself. -/
def seek? (marker : List UInt8) :
    List UInt8 → List UInt8 → List UInt8 → Option (List UInt8 × List UInt8)
  | _, _, [] => none
  | [], _, _ => none
  | m :: left, passed, b :: rest =>
    if b ≠ m then seek? marker marker (b :: passed) rest
    else if left.isEmpty then
      some (((b :: passed).drop marker.length).reverse, rest)
    else seek? marker left (b :: passed) rest

/-- What stands before a marker and after it. -/
def split? (marker : String) (s : List UInt8) : Option (List UInt8 × List UInt8) :=
  seek? (ascii marker) (ascii marker) [] s

/-- The bytes after the blanks in front. -/
def skipBlank (s : List UInt8) : List UInt8 :=
  s.dropWhile fun b => (ascii " \n\r\t").contains b

/-- A section as it is written, before its tags are compared and its data are decoded. -/
structure Written where
  /-- The tag of its beginning. -/
  start : List UInt8
  /-- What stands between its lines. -/
  body : List UInt8
  /-- The tag of its end. -/
  stop : List UInt8

/-- The first section, and what follows it. -/
def written? (s : List UInt8) : Option (Written × List UInt8) := do
  let (_, s) ← split? "-----BEGIN " s
  let (start, s) ← split? "-----" s
  let (body, s) ← split? "-----END " (skipBlank s)
  let (stop, s) ← split? "-----" s
  return (⟨start, body, stop⟩, skipBlank s)

/-- A section of which everything could be read. -/
structure Section where
  /-- What the data is, as both lines of the section name it. -/
  tag : String
  /-- The data, decoded from base 64. -/
  data : List UInt8

/-- The text of some bytes. -/
def text? (bytes : List UInt8) : Option String := String.fromUTF8? ⟨bytes.toArray⟩

/-- The lines of a text, without what ends them. A last line that is empty is none. -/
def lines (text : String) : List (List Char) :=
  let parts := Text.parts (· == '\n') text.toList
  let parts := if parts.getLast? = some [] then parts.dropLast else parts
  parts.map fun l => if l.getLast? = some '\r' then l.dropLast else l

/-- The headers and the data of a section, which an empty line separates. Without an empty line
there are only data. -/
def splitBody (body : List UInt8) : List UInt8 × List UInt8 :=
  ((split? "\n\n" body).orElse fun _ => split? "\r\n\r\n" body).getD ([], body)

/-- The section that is written. Both lines have to name the same tag, every header has to have a
colon, and blanks at the ends of lines do not belong to the data. -/
def Written.read? (w : Written) : Option Section := do
  let start ← text? w.start
  let stop ← text? w.stop
  if start = "" ∨ start ≠ stop then none
  else
    let (headers, data) := splitBody w.body
    let digits := (lines (← text? data)).flatMap (Text.dropEndWhile Text.isBlank)
    let bytes ← Base64.decode digits
    if (lines (← text? headers)).all fun l => l.contains ':' then some ⟨start, bytes⟩ else none

/-- The sections of some bytes, read with a bound on their number; all have to be readable. -/
def sectionsFrom? : Nat → List UInt8 → Option (List Section)
  | 0, _ => none
  | fuel + 1, s =>
    match written? s with
    | none => some []
    | some (w, rest) => do return (← w.read?) :: (← sectionsFrom? fuel rest)

/-- The sections of some bytes; all have to be readable. -/
def sections? (s : List UInt8) : Option (List Section) := sectionsFrom? (s.length + 1) s

example : (sections? (ascii "x\n-----BEGIN A-----\nYWJj\n-----END A-----\n")).map
    (·.map fun s => (s.tag, s.data)) = some [("A", ascii "abc")] := by
  decide +kernel

end WorkspaceAccess.Pem
