import WorkspaceAccess.Text.Unprintable

/-!
# Quoted Texts

Messages show a text between quotes, with quotes, backslashes and the usual control characters
escaped by a backslash and every other character without a glyph of its own by its number. So a
message stays on one line and shows what is there, whatever the text contains; letters of other
scripts are shown as they are.
-/

namespace WorkspaceAccess.Text

/-- The digits of a number to base sixteen, in lower case. -/
def hexDigits (n : Nat) : String := String.ofList (Nat.toDigits 16 n)

/-- How a character is written inside quotes. Which characters have no glyph of their own is listed
in `WorkspaceAccess.Text.Unprintable`. -/
def quoteChar (c : Char) : String :=
  match c with
  | '"' => "\\\""
  | '\\' => "\\\\"
  | '\n' => "\\n"
  | '\r' => "\\r"
  | '\t' => "\\t"
  | '\x00' => "\\0"
  | c => if isUnprintable c then "\\u\x7b" ++ hexDigits c.toNat ++ "\x7d" else c.toString

/-- The text between quotes, with the characters inside escaped where they have to be. -/
def quote (s : String) : String :=
  "\"" ++ s.toList.foldl (fun acc c => acc ++ quoteChar c) "" ++ "\""

end WorkspaceAccess.Text
