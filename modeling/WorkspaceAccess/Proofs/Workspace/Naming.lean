import WorkspaceAccess.KeyOrder
import WorkspaceAccess.Proofs.Text.Trim
import WorkspaceAccess.Proofs.Workspace.Label
import WorkspaceAccess.Text.Cut

/-!
# Names Derived from Projects

The name of a workspace is spelled with the characters of labels before anything is cut off: every
letter and digit of the project is in it, in lower case, and a dash stands for anything else
(`uncut`). So the cut falls between characters of one byte each, and the dashes that it lays bare
are taken off once more. What comes out is a label, unless there was nothing to spell it with; and a
label comes out as it is, since there is nothing to change in it.

Only the letters and digits of ASCII are spelled as they are. A letter of any other kind is replaced
by a dash like a blank or a full stop, so that different projects may have the same name for their
workspaces, and a project without any letter or digit of ASCII has none.

The cut is by bytes in the program, at the length of a label. For texts whose characters have one
byte each that is a cut by characters, and no place between two bytes lies inside a character
(`Text.splitCharacter?_of_single`); for any other text it could be one.

## Main results

* `utf8Bytes_take`, `Text.splitCharacter?_of_single`: texts of characters of one byte are cut
  between characters.
* `isLabelChar_labelChar`, `labelChar_of_isLabelChar`: what stands for a character is one of a
  label, and those of labels stand for themselves.
* `workspaceName_eq_empty_iff`: when the name is empty.
* `isLabel_workspaceName`: it is a label otherwise.
* `workspaceName_of_isLabel`: labels are left alone.
* `workspace_names_are_labels`: all together, for every text.
-/

namespace WorkspaceAccess

/-! ### Texts of characters of one byte -/

/-- The bytes of a text are those of its characters. -/
theorem utf8Bytes_ofList (l : List Char) :
    utf8Bytes (String.ofList l) = l.flatMap String.utf8EncodeChar := by
  rw [utf8Bytes, String.toByteArray_ofList, List.utf8Encode, List.data_toByteArray]

/-- A character of one byte is written as its number. -/
theorem utf8Bytes_ofList_of_single {l : List Char} (h : ∀ c ∈ l, c.utf8Size = 1) :
    utf8Bytes (String.ofList l) = l.map fun c => c.val.toUInt8 := by
  rw [utf8Bytes_ofList]
  induction l with
  | nil => rfl
  | cons c l ih =>
    obtain ⟨hc, hrest⟩ := List.forall_mem_cons.mp h
    rw [List.flatMap_cons, String.utf8EncodeChar_eq_singleton hc, ih hrest]
    rfl

/-- Such a text is cut between bytes as it is between characters. -/
theorem utf8Bytes_take {l : List Char} (h : ∀ c ∈ l, c.utf8Size = 1) (n : Nat) :
    utf8Bytes (String.ofList (l.take n)) = (utf8Bytes (String.ofList l)).take n := by
  have htake : ∀ c ∈ l.take n, c.utf8Size = 1 := fun c hc => h c (List.mem_of_mem_take hc)
  rw [utf8Bytes_ofList_of_single h, utf8Bytes_ofList_of_single htake, List.map_take]

/-- No place between its bytes lies inside a character. -/
theorem Text.splitCharacter?_of_single {l : List Char} (h : ∀ c ∈ l, c.utf8Size = 1)
    (index before : Nat) : splitCharacter? index before l = none := by
  induction l generalizing before with
  | nil => rfl
  | cons c l ih =>
    obtain ⟨hc, hrest⟩ := List.forall_mem_cons.mp h
    rw [splitCharacter?, hc, ih hrest]
    split
    · rfl
    · rw [if_neg (by omega)]

namespace WorkspaceName

variable {c : Char} {name project : String}

/-! ### The characters of labels -/

/-- The characters of labels have one byte each, so that bytes and characters are counted alike. -/
theorem utf8Size_of_isLabelChar (h : isLabelChar c = true) : c.utf8Size = 1 := by
  have hrange := toNat_of_isLabelChar h
  have hval : c.val.toNat = c.toNat := rfl
  rw [Char.utf8Size_eq_one_iff, UInt32.le_iff_toNat_le, hval]
  show c.toNat ≤ 127
  omega

/-- Lower case letters and digits by their numbers, which makes arithmetic of the test. -/
theorem isLabelAlphanumeric_iff : isLabelAlphanumeric c = true ↔
    (97 ≤ c.toNat ∧ c.toNat ≤ 122) ∨ (48 ≤ c.toNat ∧ c.toNat ≤ 57) := by
  simp only [isLabelAlphanumeric, Bool.or_eq_true, Bool.and_eq_true, decide_eq_true_eq]
  rfl

/-- Letters and digits are those of ASCII, in three ranges of numbers. -/
theorem isAlphanum_iff : c.isAlphanum = true ↔ (65 ≤ c.toNat ∧ c.toNat ≤ 90) ∨
    (97 ≤ c.toNat ∧ c.toNat ≤ 122) ∨ (48 ≤ c.toNat ∧ c.toNat ≤ 57) := by
  have hupper : c.isUpper = true ↔ 65 ≤ c.toNat ∧ c.toNat ≤ 90 := decide_eq_true_iff
  have hlower : c.isLower = true ↔ 97 ≤ c.toNat ∧ c.toNat ≤ 122 :=
    Bool.and_eq_true_iff.trans (and_congr decide_eq_true_iff decide_eq_true_iff)
  have hdigit : c.isDigit = true ↔ 48 ≤ c.toNat ∧ c.toNat ≤ 57 :=
    Bool.and_eq_true_iff.trans (and_congr decide_eq_true_iff decide_eq_true_iff)
  show (c.isUpper || c.isLower || c.isDigit) = true ↔ _
  rw [Bool.or_eq_true, Bool.or_eq_true, hupper, hlower, hdigit, or_assoc]

/-- Lower case letters come 32 places behind the upper case ones. -/
theorem toNat_toLower (c : Char) :
    c.toLower.toNat = if 65 ≤ c.toNat ∧ c.toNat ≤ 90 then c.toNat + 32 else c.toNat := by
  have hupper : (c.val ≥ 'A'.val ∧ c.val ≤ 'Z'.val) ↔ 65 ≤ c.toNat ∧ c.toNat ≤ 90 := Iff.rfl
  by_cases hrange : 65 ≤ c.toNat ∧ c.toNat ≤ 90
  · have hval : c.toLower.val = c.val + 32 := congrArg Char.val (dif_pos (hupper.mpr hrange))
    rw [if_pos hrange]
    show c.toLower.val.toNat = c.toNat + 32
    rw [hval, UInt32.toNat_add]
    exact Nat.mod_eq_of_lt (by show c.toNat + 32 < 4294967296; omega)
  · rw [if_neg hrange]
    exact congrArg Char.toNat (dif_neg (mt hupper.mp hrange))

/-- Lower case letters and digits are the letters and digits, put into lower case. -/
theorem isLabelAlphanumeric_toLower (c : Char) : isLabelAlphanumeric c.toLower = c.isAlphanum := by
  rw [Bool.eq_iff_iff, isLabelAlphanumeric_iff, isAlphanum_iff, toNat_toLower]
  split <;> omega

/-- What stands for a character is a character of labels. -/
theorem isLabelChar_labelChar (c : Char) : isLabelChar (labelChar c) = true := by
  rw [labelChar]
  split
  · assumption
  · rfl

/-- A dash stands for anything but a letter or a digit. -/
theorem isDash_labelChar (c : Char) : isDash (labelChar c) = !c.isAlphanum := by
  have halphanumeric := isLabelAlphanumeric_toLower c
  rw [labelChar, isLabelChar, halphanumeric]
  cases hc : c.isAlphanum with
  | true =>
    have hne : c.toLower ≠ '-' := by
      intro hdash
      rw [hdash, hc] at halphanumeric
      cases halphanumeric
    simpa [isDash] using hne
  | false =>
    by_cases hdash : c.toLower = '-'
    · simp [isDash, hdash]
    · simp [isDash, hdash]

/-- The characters of labels stand for themselves, so that a label is not changed. -/
theorem labelChar_of_isLabelChar (h : isLabelChar c = true) : labelChar c = c := by
  have hrange := toNat_of_isLabelChar h
  have hlower : c.toLower = c := by
    rw [← Char.toNat_inj, toNat_toLower, if_neg (by omega)]
  rw [labelChar, hlower]
  exact if_pos h

/-! ### The name before the cut -/

/-- The name of a project's workspace before it is cut to the length of a label. -/
def uncut (project : String) : List Char := Text.trimWhile isDash (project.toList.map labelChar)

/-- The name is what is left when the uncut one is cut and the dashes at its end are taken off. -/
theorem toList_workspaceName (project : String) : (workspaceName project).toList =
    Text.dropEndWhile isDash ((uncut project).take maxLength) := String.toList_ofList

/-- All characters before the cut are those of labels. -/
theorem isLabelChar_of_mem_uncut (h : c ∈ uncut project) : isLabelChar c = true := by
  obtain ⟨c, -, rfl⟩ := List.mem_map.mp (Text.mem_of_mem_trimWhile h)
  exact isLabelChar_labelChar c

/-- So the characters of an uncut name have one byte each. -/
theorem utf8Size_of_mem_uncut (h : c ∈ uncut project) : c.utf8Size = 1 :=
  utf8Size_of_isLabelChar (isLabelChar_of_mem_uncut h)

/-- The name is a beginning of what was there before the cut. -/
theorem toList_workspaceName_isPrefix (project : String) :
    (workspaceName project).toList <+: uncut project := by
  rw [toList_workspaceName]
  exact (Text.dropEndWhile_isPrefix _ _).trans (List.take_prefix _ _)

/-- Nothing is there only where the project has no letter and no digit. -/
theorem uncut_eq_nil_iff :
    uncut project = [] ↔ ∀ c ∈ project.toList, c.isAlphanum = false := by
  rw [uncut, Text.trimWhile_eq_nil_iff, List.forall_mem_map]
  simp only [isDash_labelChar, Bool.not_eq_true']

/-! ### The name -/

/-- The name is empty only where the project has no letter and no digit: what begins without a dash
is not taken off. -/
theorem workspaceName_eq_empty_iff :
    workspaceName project = "" ↔ ∀ c ∈ project.toList, c.isAlphanum = false := by
  rw [← uncut_eq_nil_iff, ← String.toList_eq_nil_iff, toList_workspaceName,
    Text.dropEndWhile_eq_rdropWhile, List.rdropWhile_eq_nil_iff]
  constructor
  · intro hdashes
    cases huncut : uncut project with
    | nil => rfl
    | cons c rest =>
      have hfirst : isDash c = false := by
        refine Text.not_of_mem_head?_trimWhile (l := project.toList.map labelChar) ?_
        rw [← uncut, huncut]
        rfl
      have hc := hdashes c (by rw [huncut]; exact List.mem_cons_self)
      rw [hfirst] at hc
      cases hc
  · intro hnil
    rw [hnil]
    exact nofun

/-- A name that is not empty is a label. -/
theorem isLabel_workspaceName (h : workspaceName project ≠ "") :
    IsLabel (workspaceName project) where
  nonempty := h
  chars c hc := isLabelChar_of_mem_uncut ((toList_workspaceName_isPrefix project).subset hc)
  length_le := by
    rw [← String.length_toList, toList_workspaceName]
    exact Nat.le_trans (Text.dropEndWhile_isPrefix _ _).length_le (List.length_take_le _ _)
  first hdash := by
    have huncut := Text.mem_head?_of_isPrefix (toList_workspaceName_isPrefix project) hdash
    have hnot : isDash '-' = false := Text.not_of_mem_head?_trimWhile huncut
    cases hnot
  last hdash := by
    rw [toList_workspaceName] at hdash
    have hnot : isDash '-' = false := Text.not_of_mem_getLast?_dropEndWhile hdash
    cases hnot

/-- A label is the name of its own workspace. -/
theorem workspaceName_of_isLabel (h : IsLabel name) : workspaceName name = name := by
  have hmap : name.toList.map labelChar = name.toList :=
    (List.map_congr_left fun c hc => labelChar_of_isLabelChar (h.chars c hc)).trans (List.map_id _)
  have hfirst : ∀ c ∈ name.toList.head?, isDash c = false := by
    intro c hc
    refine Bool.eq_false_iff.mpr fun hdash => h.first ?_
    rw [hc, eq_of_beq hdash]
  have hlast : ∀ c ∈ name.toList.getLast?, isDash c = false := by
    intro c hc
    refine Bool.eq_false_iff.mpr fun hdash => h.last ?_
    rw [hc, eq_of_beq hdash]
  have hlength : name.toList.length ≤ maxLength := by
    rw [String.length_toList]
    exact h.length_le
  rw [← String.toList_inj, toList_workspaceName, uncut, hmap, Text.trimWhile_eq_self hfirst hlast,
    List.take_of_length_le hlength, Text.dropEndWhile_eq_self hlast]

/-- The names of workspaces are labels, or empty where a project has no letter and no digit. The
derivation leaves them as they are, and leaves nothing else so; and cutting a name to the bytes of a
label cuts it to so many characters, so that no character is split. -/
theorem workspace_names_are_labels (project : String) :
    (workspaceName project = "" ∨ IsLabel (workspaceName project)) ∧
    (workspaceName project = "" ↔ ∀ c ∈ project.toList, c.isAlphanum = false) ∧
    workspaceName (workspaceName project) = workspaceName project ∧
    (workspaceName project = project ↔ project = "" ∨ IsLabel project) ∧
    (∀ index, Text.splitCharacter? index 0 (uncut project) = none) ∧
    utf8Bytes (String.ofList ((uncut project).take maxLength)) =
      (utf8Bytes (String.ofList (uncut project))).take maxLength := by
  have hlabel : workspaceName project = "" ∨ IsLabel (workspaceName project) :=
    (em _).imp_right isLabel_workspaceName
  have hfixed : ∀ name, name = "" ∨ IsLabel name → workspaceName name = name := by
    rintro name (rfl | h)
    · rfl
    · exact workspaceName_of_isLabel h
  refine ⟨hlabel, workspaceName_eq_empty_iff, hfixed _ hlabel, ⟨?_, hfixed project⟩, ?_, ?_⟩
  · intro hsame
    rwa [hsame] at hlabel
  · intro index
    exact Text.splitCharacter?_of_single (fun c => utf8Size_of_mem_uncut) index 0
  · exact utf8Bytes_take (fun c => utf8Size_of_mem_uncut) maxLength

end WorkspaceName

end WorkspaceAccess
