import WorkspaceAccess.Access.Roster

/-!
# The Subjects of a Roster

The subjects of a roster are in strict order, and each of them comes from a member whose email is
more than blanks. Strict order is order without repetition, so that no one is granted access twice
and the list does not depend on the order in which the members are kept.

An email is used as it is typed in, without the blanks around it. Where nothing is left the member
has no subject. Both are said with the trimming of texts, of which only one fact is needed here:
what is left of a text begins with a character that is not blank, if anything is left.

The two lemmas about the subjects are all that other modules know of how they are built, by
inserting them into a sorted map one after the other.

## Main results

* `Text.exists_of_trimWhile_ne_nil`: what is left of a list that is trimmed has an element that does
  not pass the test.
* `StaffMember.hasContent_of_email`: an email that can be used is more than blanks.
* `Roster.mem_subjects`: the subjects are those of the emails that can be used.
* `Roster.subjects_sorted`: the subjects are in strict order.
-/

namespace WorkspaceAccess

/-! ### Emails that can be used -/

/-- The text has a character that is not blank. -/
def Text.HasContent (s : String) : Prop := ∃ c ∈ s.toList, Text.isBlank c = false

/-- What is left of a list that is trimmed has an element that does not pass the test. -/
theorem Text.exists_of_trimWhile_ne_nil {α : Type} {p : α → Bool} {l : List α}
    (h : trimWhile p l ≠ []) : ∃ x ∈ trimWhile p l, p x = false := by
  have hne : (l.dropWhile p).reverse.dropWhile p ≠ [] := fun hnil => h (by
    rw [trimWhile, dropEndWhile, hnil, List.reverse_nil])
  exact ⟨_, List.mem_reverse.mpr (List.head_mem hne), List.head_dropWhile_not p hne⟩

/-- An email that can be used is more than blanks. -/
theorem StaffMember.hasContent_of_email {m : StaffMember} {email : String}
    (h : m.email = some email) : Text.HasContent email := by
  rw [StaffMember.email, StaffMemberSpec.email] at h
  split at h
  · cases h
  · rename_i hne
    obtain rfl := Option.some.inj h
    rw [Text.HasContent, Text.trimBlank, String.toList_ofList]
    refine Text.exists_of_trimWhile_ne_nil fun hnil => hne ?_
    rw [Text.trimBlank, hnil]

/-! ### Subjects -/

namespace Roster

/-- The subjects are those of the emails that can be used. -/
theorem mem_subjects {members : List StaffMember} {s : String} :
    s ∈ subjects members ↔ ∃ m ∈ members, ∃ email, m.email = some email ∧ s = subject email := by
  rw [subjects, SortedSet.mem_toList_ofList, List.mem_map]
  constructor
  · rintro ⟨email, hemail, rfl⟩
    obtain ⟨m, hm, hsome⟩ := List.mem_filterMap.mp hemail
    exact ⟨m, hm, email, hsome, rfl⟩
  · rintro ⟨m, hm, email, hsome, rfl⟩
    exact ⟨email, List.mem_filterMap.mpr ⟨m, hm, hsome⟩, rfl⟩

/-- The subjects are in strict order, so none of them occurs twice. -/
theorem subjects_sorted (members : List StaffMember) :
    (subjects members).Pairwise KeyOrder.Before := SortedMap.keys_sorted _

end Roster

end WorkspaceAccess
