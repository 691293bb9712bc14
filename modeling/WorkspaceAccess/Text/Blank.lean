/-!
# Blank Characters and Trimming

Texts that people type, such as emails and settings, are trimmed of the characters with the Unicode
property White_Space on both sides. The blanks of ASCII are among them, and so are the spaces of
other widths that find their way into a text when it is copied.

Trimming is defined for lists and any test, since names of workspaces are trimmed of dashes in the
same way. Nothing inside a text is touched. `WorkspaceAccess.Proofs.Text.Trim` has the laws: what is
left neither begins nor ends with a character that passes the test, and trimming again changes
nothing.
-/

namespace WorkspaceAccess.Text

/-- The code points with the Unicode property White_Space, as ranges with both ends. -/
def blankRanges : List (Nat × Nat) :=
  [(0x09, 0x0D), (0x20, 0x20), (0x85, 0x85), (0xA0, 0xA0), (0x1680, 0x1680), (0x2000, 0x200A),
   (0x2028, 0x2029), (0x202F, 0x202F), (0x205F, 0x205F), (0x3000, 0x3000)]

/-- The character has the Unicode property White_Space. -/
def isBlank (c : Char) : Bool :=
  blankRanges.any fun r => r.1 ≤ c.toNat && c.toNat ≤ r.2

/-! ### Dropping from both ends -/

/-- The list without its longest end that passes the test. What stands before that end stays as it
is. -/
def dropEndWhile {α : Type _} (p : α → Bool) (l : List α) : List α :=
  (l.reverse.dropWhile p).reverse

/-- The list without its longest beginning and end that pass the test. -/
def trimWhile {α : Type _} (p : α → Bool) (l : List α) : List α :=
  dropEndWhile p (l.dropWhile p)

/-- The text without blanks at its ends; a blank text becomes the empty one. -/
def trimBlank (s : String) : String := String.ofList (trimWhile isBlank s.toList)

end WorkspaceAccess.Text
