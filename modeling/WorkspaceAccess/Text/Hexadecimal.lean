/-!
# Digits to Base Sixteen

The digits are those to base ten and the first six letters of either size. The digits of a number
are read first to last (`hexNumber?`), and a character may be named by its number with a fixed count
of digits (`numberedChar?`), as escapes in texts do. A number that belongs to no character names
none.
-/

namespace WorkspaceAccess.Text

/-- The value of a digit, below sixteen; letters of either size count. -/
def hexValue? (c : Char) : Option Nat :=
  if '0' ≤ c ∧ c ≤ '9' then some (c.toNat - '0'.toNat)
  else if 'a' ≤ c ∧ c ≤ 'f' then some (c.toNat - 'a'.toNat + 10)
  else if 'A' ≤ c ∧ c ≤ 'F' then some (c.toNat - 'A'.toNat + 10)
  else none

/-- The number that digits write, if all of the text are digits. -/
def hexNumber? (s : List Char) : Option Nat :=
  (s.mapM hexValue?).map (·.foldl (fun n d => n * 16 + d) 0)

/-- The character whose number a text of so many digits begins with, and the text after them. -/
def numberedChar? (width : Nat) (s : List Char) : Option (Char × List Char) := do
  let n ← hexNumber? (s.take width)
  if width ≤ s.length ∧ n.isValidChar then some (Char.ofNat n, s.drop width) else none

end WorkspaceAccess.Text
