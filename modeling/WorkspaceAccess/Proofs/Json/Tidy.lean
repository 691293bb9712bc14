import Mathlib.Data.List.Forall2
import WorkspaceAccess.Json.Decode

/-!
# Records in Normal Form

A decoder passes over members that are no fields, and takes an absent field and one that is `null`
for the same. What is written for the fields that were read is therefore a normal form of the
record, which is said here of the values alone: `tidy` keeps the fields only, and a field without a
value is left out, or written as `null`, or as its default.

The decoders of objects share a few combinators for their fields: a required field, an optional one,
one with a default. For each there is a lemma that says what is written for a field that was read
with it, in terms of the form that the field has (`FieldForm`). A record is then tidy when each of
its fields is, and to prove that of a type is to list its fields with their forms; there is no
argument about any single type.

A field that occurs more than once is an error, but for a few that take their last value. So what a
record holds under a name is well defined (`fieldOf?`) once it has been read.

## Main results

* `exists_of_mem_mapM`, `optional?_eq_some_some`: what was read from a list or an optional field was
  read from a value in it.
* `eq_fieldOf?_of_record?`: a record that was read holds its fields under their names.
* `written_leftOut`, `written_asNull`, `written_of_required?`, `written_of_orDefault?`: what is
  written for a field that was read, for each combinator.
* `objectOf_eq_tidy`, `object_eq_tidy`: a record of such fields is tidy.
-/

namespace WorkspaceAccess

namespace Json

variable {α : Type}

/-! ### What was read -/

/-- What is read from a list was read from one of its items each. -/
theorem exists_of_mem_mapM {β : Type} {decode : β → Option α} {items : List β} {l : List α}
    (h : items.mapM decode = some l) {a : α} (ha : a ∈ l) : ∃ v ∈ items, decode v = some a := by
  induction items generalizing l with
  | nil =>
    obtain rfl : [] = l := Option.some.inj h
    cases ha
  | cons v items ih =>
    rw [List.mapM_cons] at h
    obtain ⟨b, hb, hl⟩ := Option.bind_eq_some_iff.mp h
    obtain ⟨rest, hrest, hl⟩ := Option.bind_eq_some_iff.mp hl
    obtain rfl : b :: rest = l := Option.some.inj hl
    rcases List.mem_cons.mp ha with rfl | hmem
    · exact ⟨v, List.mem_cons_self, hb⟩
    · obtain ⟨w, hw, hdecode⟩ := ih hrest hmem
      exact ⟨w, List.mem_cons_of_mem v hw, hdecode⟩

/-- Each item of a list that was read was read from some value. -/
theorem exists_of_list? {decode : Json → Option α} {v : Json} {l : List α}
    (h : list? decode v = some l) {a : α} (ha : a ∈ l) : ∃ w, decode w = some a := by
  cases v with
  | array items =>
    obtain ⟨w, -, hw⟩ := exists_of_mem_mapM h ha
    exact ⟨w, hw⟩
  | _ => cases h

/-- What was read from a required field was read from some value. -/
theorem exists_of_required? {decode : Json → Option α} {v : Option Json} {a : α}
    (h : required? decode v = some a) : ∃ w, decode w = some a := by
  cases v with
  | none => cases h
  | some w => exact ⟨w, h⟩

/-- A value that was read from an optional field was read from one that is not `null`. -/
theorem optional?_eq_some_some {decode : Json → Option α} {v : Option Json} {a : α}
    (h : optional? decode v = some (some a)) :
    ∃ w, v = some w ∧ w.isNull = false ∧ decode w = some a := by
  rw [optional?.eq_def] at h
  split at h
  · cases h
  · cases h
  · next w hnull =>
    obtain ⟨b, hb, hsame⟩ := Option.map_eq_some_iff.mp h
    obtain rfl : b = a := Option.some.inj hsame
    refine ⟨w, rfl, ?_, hb⟩
    cases w <;> first | rfl | exact absurd rfl hnull

/-- What was read from the last of several values was read from one that is not `null`. -/
theorem exists_of_last? {decode : Json → Option α} {values : List Json} {a : α}
    (h : last? decode values = some (some a)) :
    ∃ v, v.isNull = false ∧ decode v = some a := by
  obtain ⟨decoded, hdecoded, hlast⟩ := Option.map_eq_some_iff.mp h
  have hmem : some a ∈ decoded := List.mem_of_getLast? (Option.join_eq_some_iff.mp hlast)
  obtain ⟨v, -, hv⟩ := exists_of_mem_mapM hdecoded hmem
  obtain ⟨w, hw, hnull, hdecode⟩ := optional?_eq_some_some hv
  exact ⟨w, hnull, hdecode⟩

/-- A text is read from itself and from nothing else. -/
theorem string_of_string? {w : Json} {s : String} (h : string? w = some s) : string s = w := by
  cases w <;> cases h
  rfl

/-- A list of texts is read from itself and from nothing else. -/
theorem ofStrings_of_list? {w : Json} {l : List String} (h : list? string? w = some l) :
    ofStrings l = w := by
  cases w with
  | array items =>
    rw [list?] at h
    rw [ofStrings]
    congr 1
    induction items generalizing l with
    | nil =>
      obtain rfl : [] = l := Option.some.inj h
      rfl
    | cons w items ih =>
      rw [List.mapM_cons] at h
      obtain ⟨s, hs, hl⟩ := Option.bind_eq_some_iff.mp h
      obtain ⟨rest, hrest, hl⟩ := Option.bind_eq_some_iff.mp hl
      obtain rfl : s :: rest = l := Option.some.inj hl
      rw [List.map_cons, string_of_string? hs, ih hrest]
  | _ => cases h

/-- The last one of a single value is this value. -/
theorem last?_singleton {decode : Json → Option α} {v : Json} (h : v.isNull = false) :
    last? decode [v] = (decode v).map some := by
  have hoptional : optional? decode (some v) = (decode v).map some := by
    cases v <;> first | rfl | cases h
  cases hdecode : decode v <;> simp [last?, hoptional, hdecode]

/-! ### Records in normal form -/

/-- What a record holds under one of its field names. -/
def fieldOf? (names : List String) (name : String) : Json → Option Json
  | object members => lastOf? name members
  | array items => lastOf? name (names.zip items)
  | _ => none

/-- The fields of a record that was read are those that it holds under their names. -/
theorem eq_fieldOf?_of_record? {names : List String} {least : Nat} {j : Json}
    {field : String → Option Json} (h : j.record? names least = some field) (name : String) :
    field name = fieldOf? names name j := by
  cases j with
  | object members =>
    rw [record?] at h
    split at h
    · cases h
    · exact congrFun (Option.some.inj h).symm name
  | array items =>
    rw [record?] at h
    split at h
    · exact congrFun (Option.some.inj h).symm name
    · cases h
  | _ => cases h

/-- How a field of a record is written. -/
structure FieldForm where
  /-- The name of the field. -/
  name : String
  /-- What is written for a field that is absent or `null`, if anything. -/
  blank : Option Json
  /-- How a value that is there is written. -/
  form : Json → Json

namespace FieldForm

/-- A field that is left out where it has no value. -/
def leftOut (name : String) (form : Json → Json) : FieldForm := ⟨name, none, form⟩

/-- A field that is written as `null` where it has no value. -/
def asNull (name : String) : FieldForm := ⟨name, some null, id⟩

/-- A field that is written as its default where it has no value. -/
def filled (name : String) (default : Json) : FieldForm := ⟨name, some default, id⟩

/-- What is written for a field, for what was read in its place: the blank where there was
nothing. -/
def written (f : FieldForm) : Option Json → Option Json
  | none | some null => f.blank
  | some v => some (f.form v)

/-- A value that is not `null` is written in the form of its field, whatever stands for none. -/
theorem written_of_isNull {f : FieldForm} {v : Json} (h : v.isNull = false) :
    f.written (some v) = some (f.form v) := by
  cases v <;> first | rfl | cases h

section

variable {f : FieldForm} {decode : Json → Option α} {encode : α → Json} {v : Option Json}

/-- An optional field is written as what was read, or as what stands for none. -/
theorem written_of_optional? {x : Option α} (h : optional? decode v = some x)
    (hform : ∀ w a, decode w = some a → encode a = f.form w) :
    f.written v = (x.map encode).or f.blank := by
  cases x with
  | none =>
    rw [optional?.eq_def] at h
    split at h
    · rfl
    · rfl
    · obtain ⟨_, -, hsome⟩ := Option.map_eq_some_iff.mp h
      cases hsome
  | some a =>
    obtain ⟨w, rfl, hnull, hw⟩ := optional?_eq_some_some h
    rw [written_of_isNull hnull, ← hform w a hw]
    rfl

/-- A required field is written as what was read, which was not `null`. -/
theorem written_of_required? {a : α} (h : required? decode v = some a)
    (hnull : decode null = none) (hform : ∀ w a, decode w = some a → encode a = f.form w) :
    f.written v = some (encode a) := by
  cases v with
  | none => cases h
  | some w =>
    rw [required?] at h
    rw [hform w a h]
    refine written_of_isNull ?_
    cases w <;> first | rfl | exact absurd (hnull.symm.trans h) nofun

/-- A field with a default is written as what was read, or as the default. -/
theorem written_of_orDefault? {default a : α} (h : orDefault? default decode v = some a)
    (hnull : decode null = none) (hblank : f.blank = some (encode default))
    (hform : ∀ w a, decode w = some a → encode a = f.form w) :
    f.written v = some (encode a) := by
  cases v with
  | none =>
    obtain rfl : default = a := Option.some.inj h
    exact hblank
  | some w => exact written_of_required? h hnull hform

end

variable {v : Option Json} {name : String}

/-- What was read from an optional field is written as it was read, and nothing is written for
none. -/
theorem written_leftOut {decode : Json → Option α} {encode : α → Json} {form : Json → Json}
    {x : Option α} (h : optional? decode v = some x)
    (hform : ∀ w a, decode w = some a → encode a = form w) :
    (leftOut name form).written v = x.map encode := by
  rw [written_of_optional? h hform]
  exact Option.or_none

/-- What was read from an optional text is written as it was read, and `null` is written for
none. -/
theorem written_asNull {x : Option String} (h : optional? string? v = some x) :
    (asNull name).written v = some (ofOption x) := by
  rw [written_of_optional? h fun _ _ => string_of_string?]
  cases x <;> rfl

end FieldForm

/-- A record with its fields only, all of them written as they are to be. -/
def tidy (fields : List FieldForm) (j : Json) : Json :=
  objectOf (fields.map fun f =>
    (f.name, f.written (fieldOf? (fields.map (·.name)) f.name j)))

section

variable {fields : List FieldForm} {j : Json}

/-- A record is tidy when each of its fields is written as it is to be. -/
theorem objectOf_eq_tidy {members : List (String × Option Json)}
    (h : List.Forall₂ (fun m f => m.1 = f.name ∧
      f.written (fieldOf? (fields.map (·.name)) f.name j) = m.2) members fields) :
    objectOf members = tidy fields j := by
  have hmembers : members = fields.map fun f =>
      (f.name, f.written (fieldOf? (fields.map (·.name)) f.name j)) := by
    generalize fields.map (·.name) = names at h ⊢
    induction h with
    | nil => rfl
    | cons hfield _ ih => rw [List.map_cons, ← ih, hfield.2, ← hfield.1]
  rw [tidy, ← hmembers]

/-- So is an object that has all of its fields. -/
theorem object_eq_tidy {members : List (String × Json)}
    (h : List.Forall₂ (fun m f => m.1 = f.name ∧
      f.written (fieldOf? (fields.map (·.name)) f.name j) = some m.2) members fields) :
    object members = tidy fields j := by
  rw [← objectOf_map_some]
  exact objectOf_eq_tidy (List.forall₂_map_left_iff.mpr h)

end

end Json

end WorkspaceAccess
