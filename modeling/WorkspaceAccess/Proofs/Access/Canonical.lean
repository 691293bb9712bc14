import Mathlib.Data.Finset.Card
import Mathlib.Data.List.Sort
import WorkspaceAccess.Proofs.Access.Roster
import WorkspaceAccess.Proofs.Text.Trim

/-!
# Subjects in Canonical Form

The subjects of a roster stand for a set, that of the emails which are left when all that were typed
in are trimmed and the empty one is dropped (`usable`). A list that is in strict order is determined
by what is in it, so that the set is all that the subjects depend on: not the order of the members,
nor how often one of them is listed, nor anything else that is known of them.

The definition of the subjects goes by way of a sorted map, into which the emails are inserted one
after the other. What is proved about them does not mention that map. `IsCanonical` describes a list
by its order and by its members: the bytes of the texts are strictly increasing, and a text is in
the list just when it is the prefix with an email that is left when what was typed in is trimmed.
There is exactly one such list (`IsCanonical.unique`), and the subjects are it.

The order is that of the UTF-8 bytes. It is the order of the code points as well, but it is by bytes
that texts are compared where the bindings are kept.

## Main results

* `KeyOrder.eq_of_mem_iff`: two lists in strict order with the same members are the same.
* `before_iff_utf8Bytes_lt`: a text comes before another one when its bytes do.
* `toFinset_subjects`, `length_subjects`: as a set the subjects are the image of the usable emails,
  and there are as many.
* `subjects_eq_iff`: two rosters have the same subjects just when they have the same usable emails.
* `subjects_are_canonical`: all together, for every roster.
* `signedUpAgain_is_canonical`: two rosters that differ in everything but the usable emails.
-/

namespace WorkspaceAccess

/-! ### Lists in strict order -/

namespace KeyOrder

variable {κ : Type} [KeyOrder κ]

instance : Std.Irrefl (@Before κ _) := ⟨before_irrefl⟩

instance : Std.Antisymm (@Before κ _) := ⟨fun _ _ h h' => (h.asymm h').elim⟩

/-- A list in strict order is determined by its members. -/
theorem eq_of_mem_iff {l l' : List κ} (h : l.Pairwise Before) (h' : l'.Pairwise Before)
    (hmem : ∀ k, k ∈ l ↔ k ∈ l') : l = l' := h.eq_of_mem_iff h' hmem

end KeyOrder

/-- Lists of bytes are compared as they are ordered. -/
theorem compareLex_eq_lt_iff {l l' : List UInt8} :
    List.compareLex Ord.compare l l' = .lt ↔ l < l' := by
  induction l generalizing l' with
  | nil => cases l' <;> simp [List.compareLex]
  | cons b l ih =>
    cases l' with
    | nil => simp [List.compareLex]
    | cons b' l' =>
      rw [List.compareLex_cons_cons, Ordering.then_eq_lt, ih, List.cons_lt_cons_iff,
        Std.compare_eq_lt, Std.LawfulEqCmp.compare_eq_iff_eq]

/-- A text comes before another one when its bytes do. -/
theorem before_iff_utf8Bytes_lt {s t : String} : KeyOrder.Before s t ↔ utf8Bytes s < utf8Bytes t :=
  compareLex_eq_lt_iff

/-! ### Usable emails -/

/-- The email of a member is what was typed in, trimmed, unless nothing is left of it. -/
theorem StaffMember.email_eq_some_iff {m : StaffMember} {email : String} :
    m.email = some email ↔ email = Text.trimBlank m.spec.primaryEmail ∧ email ≠ "" := by
  rw [StaffMember.email, StaffMemberSpec.email]
  split
  · rename_i hempty
    constructor
    · rintro ⟨⟩
    · rintro ⟨rfl, hne⟩
      exact absurd hempty hne
  · rename_i hne
    rw [Option.some.injEq]
    constructor
    · rintro rfl
      exact ⟨rfl, hne⟩
    · rintro ⟨rfl, -⟩
      rfl

namespace Roster

variable {members others : List StaffMember} {s email : String}

/-- The emails of the members, as they were typed in. -/
def typed (members : List StaffMember) : List String := members.map (·.spec.primaryEmail)

/-- The emails that are left when those that were typed in are trimmed. -/
def usable (members : List StaffMember) : Finset String :=
  ((typed members).map Text.trimBlank).toFinset.erase ""

/-- An email is usable when it is what is left of one that was typed in, and is not empty. -/
theorem mem_usable_iff :
    email ∈ usable members ↔ ∃ raw ∈ typed members, email = Text.trimBlank raw ∧ email ≠ "" := by
  rw [usable, Finset.mem_erase, List.mem_toFinset, List.mem_map]
  constructor
  · rintro ⟨hne, raw, hraw, rfl⟩
    exact ⟨raw, hraw, rfl, hne⟩
  · rintro ⟨raw, hraw, rfl, hne⟩
    exact ⟨hne, raw, hraw, rfl⟩

/-- The subjects are those of the usable emails, as a set: none is missing, and there is no
other. -/
theorem mem_subjects_iff_usable :
    s ∈ subjects members ↔ ∃ email ∈ usable members, s = subject email := by
  rw [mem_subjects]
  constructor
  · rintro ⟨m, hm, email, hemail, rfl⟩
    obtain ⟨htrim, hne⟩ := StaffMember.email_eq_some_iff.mp hemail
    exact ⟨email, mem_usable_iff.mpr ⟨_, List.mem_map_of_mem hm, htrim, hne⟩, rfl⟩
  · rintro ⟨email, husable, rfl⟩
    obtain ⟨raw, hraw, htrim, hne⟩ := mem_usable_iff.mp husable
    obtain ⟨m, hm, rfl⟩ := List.mem_map.mp hraw
    exact ⟨m, hm, email, StaffMember.email_eq_some_iff.mpr ⟨htrim, hne⟩, rfl⟩

/-- The prefix can be taken away again, so that different emails are different subjects. -/
theorem subject_injective : Function.Injective subject :=
  fun _ _ h => String.append_right_inj _ |>.mp h

/-- As a set, the subjects are the image of the usable emails. -/
theorem toFinset_subjects (members : List StaffMember) :
    (subjects members).toFinset = (usable members).image subject := by
  ext s
  rw [List.mem_toFinset, mem_subjects_iff_usable, Finset.mem_image]
  simp only [eq_comm]

/-- There are as many subjects as there are usable emails, however often each of them occurs on the
roster. -/
theorem length_subjects (members : List StaffMember) :
    (subjects members).length = (usable members).card := by
  have hnodup : (subjects members).Nodup := (subjects_sorted members).imp KeyOrder.Before.ne
  rw [← List.toFinset_card_of_nodup hnodup, toFinset_subjects,
    Finset.card_image_of_injective _ subject_injective]

/-- Two rosters have the same subjects just when they have the same usable emails. -/
theorem subjects_eq_iff : subjects others = subjects members ↔ usable others = usable members := by
  constructor
  · intro h
    refine Finset.image_injective subject_injective ?_
    show (usable others).image subject = (usable members).image subject
    rw [← toFinset_subjects, ← toFinset_subjects, h]
  · intro h
    refine KeyOrder.eq_of_mem_iff (subjects_sorted others) (subjects_sorted members) fun s => ?_
    rw [mem_subjects_iff_usable, mem_subjects_iff_usable, h]

/-! ### The canonical form -/

/-- The list is made of these emails: of each that is more than blanks once, trimmed and behind the
prefix of subjects, in the order of the bytes. -/
structure IsCanonical (emails : List String) (l : List String) : Prop where
  /-- The subjects stand in strictly increasing order of their bytes, so none is repeated. -/
  increasing : l.Pairwise fun s t => utf8Bytes s < utf8Bytes t
  /-- The members are the subjects of the trimmed emails that are not empty. -/
  mem_iff : ∀ s, s ∈ l ↔ ∃ raw ∈ emails, ∃ email,
    Text.Trims Text.isBlank raw.toList email.toList ∧ email ≠ "" ∧ s = "oidc:" ++ email

/-- There is one list in canonical form only: a list without repetitions in strict order is
determined by its members. -/
theorem IsCanonical.unique {emails l l' : List String} (h : IsCanonical emails l)
    (h' : IsCanonical emails l') : l = l' :=
  KeyOrder.eq_of_mem_iff (h.increasing.imp before_iff_utf8Bytes_lt.mpr)
    (h'.increasing.imp before_iff_utf8Bytes_lt.mpr) fun s => (h.mem_iff s).trans (h'.mem_iff s).symm

/-- The subjects of a roster are in canonical form: the map into which they are inserted keeps them
in order, and it holds those of the usable emails. -/
theorem isCanonical_subjects (members : List StaffMember) :
    IsCanonical (typed members) (subjects members) where
  increasing := (subjects_sorted members).imp before_iff_utf8Bytes_lt.mp
  mem_iff s := by
    rw [mem_subjects_iff_usable]
    constructor
    · rintro ⟨email, husable, rfl⟩
      obtain ⟨raw, hraw, htrim, hne⟩ := mem_usable_iff.mp husable
      exact ⟨raw, hraw, email, Text.trims_iff_eq_trimBlank.mpr htrim, hne, rfl⟩
    · rintro ⟨raw, hraw, email, htrim, hne, rfl⟩
      exact ⟨email, mem_usable_iff.mpr ⟨raw, hraw, Text.trims_iff_eq_trimBlank.mp htrim, hne⟩, rfl⟩

/-- The subjects of a roster are the canonical list of its emails, and no other list is. They are as
many as there are different emails that are more than blanks; other rosters have the same subjects
just when they have the same such emails, and so whenever the same emails were typed in, in any
order, any number of times and by whomever. -/
theorem subjects_are_canonical (members : List StaffMember) :
    (∀ l, l = subjects members ↔ IsCanonical (typed members) l) ∧
    (subjects members).length = (usable members).card ∧
    (∀ others, subjects others = subjects members ↔ usable others = usable members) ∧
    ∀ others, (∀ raw, raw ∈ typed others ↔ raw ∈ typed members) →
      subjects others = subjects members := by
  refine ⟨fun l => ⟨?_, ?_⟩, length_subjects members, fun others => subjects_eq_iff, ?_⟩
  · rintro rfl
    exact isCanonical_subjects members
  · intro hl
    exact hl.unique (isCanonical_subjects members)
  · intro others hsame
    refine subjects_eq_iff.mpr (Finset.ext fun email => ?_)
    simp only [mem_usable_iff, hsame]

/-- Two members, one of them with blanks around the email, and one without an email. -/
def signedUp : List StaffMember := [
  { metadata := { name := some "bob" }, spec := { primaryEmail := " b@y.io\u2003" } },
  { metadata := { name := some "ann" }, spec := { primaryEmail := "a@x.io" } },
  { metadata := { name := some "nemo" }, spec := { primaryEmail := "\t" } }]

/-- The same emails in another order, one of them twice, and with other names. -/
def signedUpAgain : List StaffMember := [
  { metadata := { name := some "nobody" }, spec := { primaryEmail := "\t" } },
  { metadata := { name := some "ann" }, spec := { primaryEmail := "a@x.io" } },
  { metadata := { name := some "rob" }, spec :=
    { displayName := some "Rob", primaryEmail := " b@y.io\u2003" } },
  { metadata := { name := some "anna" }, spec := { primaryEmail := "a@x.io" } }]

/-- Both rosters, one of which repeats the other in another order, have the same two subjects. -/
theorem signedUpAgain_is_canonical :
    (∀ raw, raw ∈ typed signedUpAgain ↔ raw ∈ typed signedUp) ∧
      subjects signedUpAgain = subjects signedUp ∧
      subjects signedUp = ["oidc:a@x.io", "oidc:b@y.io"] ∧ (usable signedUp).card = 2 := by
  obtain ⟨-, hlength, -, hsame⟩ := subjects_are_canonical signedUp
  have htyped : ∀ raw, raw ∈ typed signedUpAgain ↔ raw ∈ typed signedUp := by
    intro raw
    simp only [typed, signedUpAgain, signedUp, List.map_cons, List.map_nil, List.mem_cons,
      List.not_mem_nil, or_false]
    tauto
  have hsubjects : subjects signedUp = ["oidc:a@x.io", "oidc:b@y.io"] := by decide +kernel
  refine ⟨htyped, hsame _ htyped, hsubjects, ?_⟩
  rw [← hlength, hsubjects]
  rfl

end Roster

end WorkspaceAccess
