/-!
# Parts of a Text

A text falls into parts at its separators. There is one part more than there are separators, so that
a text without any is its only part, and the empty text is one empty part. Separators next to each
other, or at the ends, have empty parts beside them; those who do not want these leave them out
themselves.
-/

namespace WorkspaceAccess.Text

/-- The parts of a list between the elements that pass the test; these belong to no part. -/
def parts {α : Type _} (p : α → Bool) : List α → List (List α)
  | [] => [[]]
  | c :: l =>
    if p c then [] :: parts p l
    else match parts p l with
      | part :: rest => (c :: part) :: rest
      | [] => [[c]]

end WorkspaceAccess.Text
