import WorkspaceAccess.Text.Decimal

/-!
# Numbers on the Command Line

Whole numbers may have a plus sign and zeros in front. A number that is not below its bound is no
number of that setting, and the same is true of signs alone and of anything that is no digit. The
bound is that of the type in which the setting is kept, so that a number that is read fits.

The same reading serves the settings that count something, the ports and the parts of addresses, and
the levels of the log, each with a bound of its own.
-/

namespace WorkspaceAccess.SettingValue

/-- The number that digits write, if it is below a bound. A plus sign may stand in front, and at
least one digit has to follow. -/
def number? (bound : Nat) (text : String) : Option Nat :=
  let digits := match text.toList with
    | '+' :: ds => ds
    | ds => ds
  if digits.isEmpty || !digits.all Char.isDigit then none
  else
    let n := Decimal.natOfDigits digits
    if n < bound then some n else none

end WorkspaceAccess.SettingValue
