import WorkspaceAccess.Uri
import WorkspaceAccess.Workspace.Name

/-!
# Workspaces Named by Labels

A DNS label has nothing in it that means anything to an address, so that it can stand in a path or a
query as it is, and it is short. `IsLabel` says what a label is, by its characters, its length and
its ends; it is how the names of workspaces are described wherever they are given and not derived.

That the characters of labels may stand somewhere is checked for each of them, as they are few: 26
letters, ten digits and the dash. Tests on characters that are given by ranges of their numbers are
evaluated on these numbers.

A text is short in bytes when it is short in characters, and no character has more than four. This
bound is coarse for labels, whose characters have one byte each, but it does not depend on which
characters they are, and it is all that the bounds on addresses need.

## Main results

* `toNat_of_isLabelChar`: the characters of a label are ASCII.
* `isPathChar_of_isLabelChar`, `isQueryChar_of_isLabelChar`: they may stand in paths and in queries.
* `IsLabel.utf8ByteSize_le`: a label has at most four bytes for each of its characters.
-/

namespace WorkspaceAccess

/-- A text has at most four bytes for each of its characters. -/
theorem utf8ByteSize_ofList_le (l : List Char) :
    (String.ofList l).utf8ByteSize ≤ 4 * l.length := by
  induction l with
  | nil => exact Nat.le_refl 0
  | cons c l ih =>
    have hsplit : String.ofList (c :: l) = String.singleton c ++ String.ofList l := by
      rw [String.singleton_eq_ofList, ← String.ofList_append]
      rfl
    have hone := c.utf8Size_le_four
    rw [hsplit, String.utf8ByteSize_append, String.utf8ByteSize_singleton, List.length_cons]
    omega

namespace WorkspaceName

/-- A DNS label: lower case letters, digits and dashes, at most 63 of them, with no dash at either
end. -/
structure IsLabel (name : String) : Prop where
  /-- There is at least one character in it. -/
  nonempty : name ≠ ""
  /-- It has only lower case letters, digits and dashes. -/
  chars : ∀ c ∈ name.toList, isLabelChar c = true
  /-- It is not longer than a label may be. -/
  length_le : name.length ≤ maxLength
  /-- It does not begin with a dash. -/
  first : name.toList.head? ≠ some '-'
  /-- It does not end with a dash. -/
  last : name.toList.getLast? ≠ some '-'

/-- The characters of labels are those of ASCII that are named. -/
theorem toNat_of_isLabelChar {c : Char} (h : isLabelChar c = true) :
    (97 ≤ c.toNat ∧ c.toNat ≤ 122) ∨ (48 ≤ c.toNat ∧ c.toNat ≤ 57) ∨ c.toNat = 45 := by
  simp only [isLabelChar, isLabelAlphanumeric, Bool.or_eq_true, Bool.and_eq_true,
    decide_eq_true_eq, beq_iff_eq] at h
  rcases h with (h | h) | rfl
  · exact .inl h
  · exact .inr (.inl h)
  · exact .inr (.inr rfl)

/-- They may stand in paths, where neither a slash nor a percent sign is among them. -/
theorem isPathChar_of_isLabelChar {c : Char} (h : isLabelChar c = true) :
    PathAndQuery.isPathChar c = true := by
  have hrange := toNat_of_isLabelChar h
  simp only [PathAndQuery.isPathChar, Bool.or_eq_true, Bool.and_eq_true, decide_eq_true_eq,
    beq_iff_eq]
  omega

/-- The characters of labels may stand in queries as they are. -/
theorem isQueryChar_of_isLabelChar {c : Char} (h : isLabelChar c = true) :
    PathAndQuery.isQueryChar c = true := by
  have hrange := toNat_of_isLabelChar h
  simp only [PathAndQuery.isQueryChar, Bool.or_eq_true, Bool.and_eq_true, decide_eq_true_eq,
    beq_iff_eq]
  omega

/-- A label is short, so that it does not make an address too long. -/
theorem IsLabel.utf8ByteSize_le {name : String} (h : IsLabel name) :
    name.utf8ByteSize ≤ 4 * maxLength := by
  have hbytes := utf8ByteSize_ofList_le name.toList
  rw [String.ofList_toList] at hbytes
  exact Nat.le_trans hbytes (Nat.mul_le_mul_left 4 h.length_le)

end WorkspaceName

end WorkspaceAccess
