import WorkspaceAccess.Text.Quoted

/-!
# Cutting a Text between Bytes

A part of a text is named by the bytes between which it lies. Where such a place lies inside a
character there is no part to be cut out, and the character is named instead, with its place, so
that the message says what was wrong.

A place at the very end of a text, or beyond it, lies inside no character, and neither does one
between two characters. The beginning of a part is looked at before its end: where both lie inside
characters, the first is named.
-/

namespace WorkspaceAccess.Text

/-- A place between two bytes that lies inside a character, with all that is said about it. -/
structure SplitCharacter where
  /-- The part was to end at the place; else it was to begin there. -/
  atEnd : Bool
  /-- The number of bytes before the place. -/
  index : Nat
  /-- The character that the place lies in. -/
  character : Char
  /-- The number of bytes before the character. -/
  start : Nat
  deriving DecidableEq

/-- What is said about the place. -/
def SplitCharacter.message (s : SplitCharacter) : String :=
  (if s.atEnd then "end" else "start") ++ " byte index " ++ toString s.index ++
    " is not a char boundary; it is inside '" ++ quoteChar s.character ++ "' (bytes " ++
    toString s.start ++ ".." ++ toString (s.start + s.character.utf8Size) ++ " of string)"

/-- The character that a place after so many bytes lies in, with the bytes before it. The text
begins after `before` bytes. -/
def splitCharacter? (index before : Nat) : List Char → Option (Char × Nat)
  | [] => none
  | c :: rest =>
    let after := before + c.utf8Size
    if index ≤ before then none
    else if index < after then some (c, before)
    else splitCharacter? index after rest

/-- Whether the part from one place to another can be cut out; its beginning is looked at first. -/
def checkCut (s : List Char) (start stop : Nat) : Except SplitCharacter Unit :=
  match splitCharacter? start 0 s, splitCharacter? stop 0 s with
  | some (c, before), _ => .error ⟨false, start, c, before⟩
  | none, some (c, before) => .error ⟨true, stop, c, before⟩
  | none, none => .ok ()

example : splitCharacter? 2 0 ['a', '€'] = some ('€', 1) := by decide +kernel

end WorkspaceAccess.Text
