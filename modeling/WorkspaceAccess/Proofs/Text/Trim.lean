import Mathlib.Data.List.DropRight
import WorkspaceAccess.Text.Blank

/-!
# What Trimming Leaves

Trimming a list takes off what passes a test at both ends, and stops there. What is left is
described without saying how it is found (`Trims`): something that passes lies around it, and it
neither begins nor ends with such. This is what one wants to know of a text that was trimmed, and
what one would write down as a specification; that there is only one such part of a list has to be
proved, since a list could conceivably be trimmed in two ways that leave different things.

The description does not say where what is left lies in the list. If everything passes, nothing is
left, and it lies anywhere.

Texts are trimmed of their blanks, which are those of Unicode, and names of the dashes at their end.
Both are lists of characters here.

## Main results

* `trims_trimWhile`: the description is met by what trimming leaves.
* `Trims.eq_trimWhile`: there is only one way to trim a list.
* `trims_iff_eq_trimWhile`, `trims_iff_eq_trimBlank`: both together, for lists and for texts and
  blanks.
* `trimWhile_eq_self`: a list is left as it is when it begins and ends with what does not pass.
* `trimWhile_eq_nil_iff`, `mem_of_mem_trimWhile`: when nothing is left, and that what is left was
  there before.
-/

namespace WorkspaceAccess.Text

variable {α : Type} {p : α → Bool} {l t : List α}

/-- What is left of a list when the elements that pass the test are taken off at both ends. -/
structure Trims (p : α → Bool) (l t : List α) : Prop where
  /-- What lies around it passes the test, on both sides. -/
  around : ∃ before after, l = before ++ t ++ after ∧
    (∀ x ∈ before, p x = true) ∧ ∀ x ∈ after, p x = true
  /-- It does not begin with something that passes the test. -/
  first : ∀ x ∈ t.head?, p x = false
  /-- It does not end with something that passes the test. -/
  last : ∀ x ∈ t.getLast?, p x = false

/-! ### At the end -/

/-- The end is dropped as the library does it. -/
theorem dropEndWhile_eq_rdropWhile (p : α → Bool) (l : List α) :
    dropEndWhile p l = l.rdropWhile p := rfl

/-- What is left when the end is dropped is a beginning of the list. -/
theorem dropEndWhile_isPrefix (p : α → Bool) (l : List α) : dropEndWhile p l <+: l :=
  l.rdropWhile_prefix p

/-- What is left does not end with what passes. -/
theorem not_of_mem_getLast?_dropEndWhile {x : α} (h : x ∈ (dropEndWhile p l).getLast?) :
    p x = false := by
  have hne : dropEndWhile p l ≠ [] := by
    intro hnil
    rw [hnil] at h
    cases h
  rw [List.getLast?_eq_some_getLast hne] at h
  obtain rfl := Option.some.inj h
  exact Bool.eq_false_iff.mpr (List.rdropWhile_last_not p l hne)

/-- A list that does not end with what passes is left as it is. -/
theorem dropEndWhile_eq_self (h : ∀ x ∈ l.getLast?, p x = false) : dropEndWhile p l = l := by
  refine List.rdropWhile_eq_self_iff.mpr fun hne => ?_
  rw [h _ (List.getLast?_eq_some_getLast hne)]
  exact Bool.false_ne_true

/-- What passes at the end is dropped together with whatever stands before it and passes as well. -/
theorem dropEndWhile_append {after : List α} (h : ∀ x ∈ after, p x = true) :
    dropEndWhile p (l ++ after) = dropEndWhile p l := by
  have hafter : ∀ x ∈ after.reverse, p x = true := fun x hx => h x (List.mem_reverse.mp hx)
  rw [dropEndWhile, dropEndWhile, List.reverse_append, List.dropWhile_append_of_pos hafter]

/-! ### At both ends -/

/-- A beginning of a list that is not empty begins as the list does. -/
theorem mem_head?_of_isPrefix {x : α} (hstart : t <+: l) (h : x ∈ t.head?) : x ∈ l.head? := by
  obtain ⟨after, rfl⟩ := hstart
  rw [List.head?_append, Option.mem_def.mp h]
  rfl

/-- What trimming leaves does not begin with what passes. -/
theorem not_of_mem_head?_trimWhile {x : α} (h : x ∈ (trimWhile p l).head?) : p x = false := by
  have hx : x ∈ (l.dropWhile p).head? := mem_head?_of_isPrefix (dropEndWhile_isPrefix p _) h
  have hnot := l.head?_dropWhile_not p
  rw [hx] at hnot
  exact Bool.eq_false_iff.mpr (by simpa using hnot)

/-- What trimming leaves is what the description asks for. -/
theorem trims_trimWhile (p : α → Bool) (l : List α) : Trims p l (trimWhile p l) where
  around := by
    refine ⟨l.takeWhile p, (l.dropWhile p).rtakeWhile p, ?_, ?_, ?_⟩
    · rw [trimWhile, dropEndWhile_eq_rdropWhile, List.append_assoc,
        List.rdropWhile_append_rtakeWhile, List.takeWhile_append_dropWhile]
    · exact fun x hx => List.mem_takeWhile_imp hx
    · exact fun x hx => List.mem_rtakeWhile_imp hx
  first _ hx := not_of_mem_head?_trimWhile hx
  last _ hx := not_of_mem_getLast?_dropEndWhile hx

/-- There is only one way to trim a list. -/
theorem Trims.eq_trimWhile (h : Trims p l t) : t = trimWhile p l := by
  obtain ⟨before, after, rfl, hbefore, hafter⟩ := h.around
  rw [trimWhile, List.append_assoc, List.dropWhile_append_of_pos hbefore]
  cases t with
  | nil =>
    have hnone : after.dropWhile p = [] := List.dropWhile_eq_nil_iff.mpr hafter
    rw [List.nil_append, hnone]
    rfl
  | cons x t =>
    have hx : ¬ p x = true := Bool.eq_false_iff.mp (h.first x rfl)
    rw [List.cons_append, List.dropWhile_cons_of_neg hx, ← List.cons_append,
      dropEndWhile_append hafter, dropEndWhile_eq_self h.last]

/-- The description is met by what trimming leaves, and by nothing else. -/
theorem trims_iff_eq_trimWhile : Trims p l t ↔ t = trimWhile p l := by
  constructor
  · exact Trims.eq_trimWhile
  · rintro rfl
    exact trims_trimWhile p l

/-- Texts are trimmed of their blanks, and of nothing else. -/
theorem trims_iff_eq_trimBlank {s e : String} :
    Trims isBlank s.toList e.toList ↔ e = trimBlank s := by
  rw [trims_iff_eq_trimWhile, trimBlank]
  constructor
  · intro h
    rw [← h, String.ofList_toList]
  · rintro rfl
    rw [String.toList_ofList]

/-- A list that neither begins nor ends with what passes is left as it is. -/
theorem trimWhile_eq_self (hfirst : ∀ x ∈ l.head?, p x = false)
    (hlast : ∀ x ∈ l.getLast?, p x = false) : trimWhile p l = l :=
  (Trims.eq_trimWhile ⟨⟨[], [], by simp, by simp, by simp⟩, hfirst, hlast⟩).symm

/-- Nothing is left when everything passes, and only then. -/
theorem trimWhile_eq_nil_iff : trimWhile p l = [] ↔ ∀ x ∈ l, p x = true := by
  constructor
  · intro h
    obtain ⟨before, after, hsplit, hbefore, hafter⟩ := (trims_trimWhile p l).around
    rw [h, List.append_nil] at hsplit
    rw [hsplit]
    exact List.forall_mem_append.mpr ⟨hbefore, hafter⟩
  · intro h
    refine (Trims.eq_trimWhile ⟨⟨l, [], by simp, h, by simp⟩, ?_, ?_⟩).symm <;> simp

/-- What is left was there before: nothing is added. -/
theorem mem_of_mem_trimWhile {x : α} (h : x ∈ trimWhile p l) : x ∈ l := by
  obtain ⟨before, after, hsplit, -⟩ := (trims_trimWhile p l).around
  rw [hsplit]
  exact List.mem_append_left _ (List.mem_append_right _ h)

end WorkspaceAccess.Text
