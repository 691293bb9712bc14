import WorkspaceAccess.Proofs.Json.Tidy
import WorkspaceAccess.Proofs.Object.Wire

/-!
# The Normal Form of Objects

A workspace, a project and a staff member are written in a normal form of what they were read from:
the kind and its version stand in front, members that are no fields are gone, and a field that is
absent or `null` is written as its type prescribes. The optional fields of a workspace are left out,
but the phase of its status is written as `null`, and so are the optional fields of a project and of
a staff member. What becomes of the metadata is left to them: they lose the fractions of seconds.

The normal form is a function on values and does not mention the objects. `IsFaithful` says of a
type that its objects survive: what is written for an object that was read is the normal form of the
value, an object is read back exactly when its metadata are, and what was read and written once is
read and written as it is from then on. The first is proved field by field for each type, with the
lemmas about tidy records; the others follow from it in the same way for all three types
(`IsFaithful.of_metadata`).

Metadata that were read may not be read back as they are, since a time with a fraction of a second
is written without it. But what is written is the same, and that is read back; so one round is
enough to come to rest.

## Main results

* `Workspace.toJson_eq_normalForm`, `Project.toJson_eq_normalForm`,
  `StaffMember.toJson_eq_normalForm`: an object is written in the normal form of what it was read
  from.
* `ObjectMeta.exists_toJson_eq`: metadata that were read are written as before when they are read
  again.
* `IsFaithful.of_metadata`: objects are faithful when they are read back but for their metadata.
* `typed_objects_survive_the_wire`: the three types are faithful.
* `alpha_is_written_in_normal_form`: a project with members that are no fields and a fraction of a
  second.
-/

namespace WorkspaceAccess

open Json (FieldForm string_of_string? ofStrings_of_list? eq_fieldOf?_of_record? objectOf_eq_tidy
  object_eq_tidy)
open Json.FieldForm (written_of_required? written_of_orDefault? written_leftOut written_asNull)

/-! ### Normal forms -/

/-- An object in normal form: its kind and version, and then its fields. -/
def ObjectKind.tidy (kind : ObjectKind) (fields : List FieldForm) (j : Json) : Json :=
  .object (("apiVersion", .string kind.apiVersion) :: ("kind", .string kind.name) ::
    (Json.tidy fields j).members)

/-- The normal form of metadata is what they are written as once they were read. -/
def ObjectMeta.normalForm (j : Json) : Json := ((ofJson? j).map toJson).getD j

/-- The normal form of the type of a workspace. A required field always has a value to be
written. -/
def WorkspaceType.normalForm : Json → Json :=
  Json.tidy [.leftOut "name" id, .leftOut "path" id]

/-- The normal form of what is asked of a workspace: fields without a value are left out. -/
def WorkspaceSpec.normalForm : Json → Json :=
  Json.tidy [.leftOut "type" WorkspaceType.normalForm, .leftOut "URL" id, .leftOut "cluster" id]

/-- The normal form of what is reported about a workspace, which always has a phase. -/
def WorkspaceStatus.normalForm : Json → Json := Json.tidy [.asNull "phase"]

/-- The normal form of a workspace: its fields in their order, without whatever else was there. -/
def Workspace.normalForm : Json → Json :=
  ObjectKind.workspace.tidy [.leftOut "metadata" ObjectMeta.normalForm,
    .leftOut "spec" WorkspaceSpec.normalForm, .leftOut "status" WorkspaceStatus.normalForm]

/-- The normal form of what is known of a project: all fields are written. -/
def ProjectSpec.normalForm : Json → Json :=
  Json.tidy [.asNull "displayName", .asNull "maturity", .filled "repositories" (.array [])]

/-- The normal form of a project: its fields in their order, without whatever else was there. -/
def Project.normalForm : Json → Json :=
  ObjectKind.project.tidy [.leftOut "metadata" ObjectMeta.normalForm,
    .leftOut "spec" ProjectSpec.normalForm]

/-- The normal form of what is known of a staff member: all fields are written. -/
def StaffMemberSpec.normalForm : Json → Json :=
  Json.tidy [.asNull "displayName", .filled "primaryEmail" (.string ""), .asNull "githubAccount"]

/-- The normal form of a staff member: its fields in their order, without whatever else was
there. -/
def StaffMember.normalForm : Json → Json :=
  ObjectKind.staffMember.tidy [.leftOut "metadata" ObjectMeta.normalForm,
    .leftOut "spec" StaffMemberSpec.normalForm]

/-! ### Parts of objects -/

/-- What is written for metadata that were read is their normal form. -/
theorem ObjectMeta.written_normalForm {v : Option Json} {m : ObjectMeta}
    (h : Json.required? ofJson? v = some m) :
    (FieldForm.leftOut "metadata" normalForm).written v = some m.toJson := by
  refine written_of_required? h rfl fun w m hm => ?_
  have hnormal : normalForm w = m.toJson := by
    rw [normalForm, hm]
    rfl
  exact hnormal.symm

/-- The type of a workspace is written in the normal form of what it was read from. -/
theorem WorkspaceType.toJson_eq_normalForm {j : Json} {t : WorkspaceType}
    (h : ofJson? j = some t) : t.toJson = normalForm j := by
  obtain ⟨field, hrecord, h⟩ := Option.bind_eq_some_iff.mp h
  obtain ⟨name, hname, h⟩ := Option.bind_eq_some_iff.mp h
  obtain ⟨path, hpath, h⟩ := Option.bind_eq_some_iff.mp h
  obtain rfl := Option.some.inj h
  rw [eq_fieldOf?_of_record? hrecord] at hname hpath
  exact objectOf_eq_tidy (.cons ⟨rfl, written_of_required? hname rfl fun _ _ => string_of_string?⟩
    (.cons ⟨rfl, written_leftOut hpath fun _ _ => string_of_string?⟩ .nil))

/-- So is what is asked of a workspace written in its normal form, whatever it was read from. -/
theorem WorkspaceSpec.toJson_eq_normalForm {j : Json} {s : WorkspaceSpec}
    (h : ofJson? j = some s) : s.toJson = normalForm j := by
  obtain ⟨field, hrecord, h⟩ := Option.bind_eq_some_iff.mp h
  obtain ⟨type, htype, h⟩ := Option.bind_eq_some_iff.mp h
  obtain ⟨url, hurl, h⟩ := Option.bind_eq_some_iff.mp h
  obtain ⟨cluster, hcluster, h⟩ := Option.bind_eq_some_iff.mp h
  obtain rfl := Option.some.inj h
  rw [eq_fieldOf?_of_record? hrecord] at htype hurl hcluster
  exact objectOf_eq_tidy
    (.cons ⟨rfl, written_leftOut htype fun _ _ => WorkspaceType.toJson_eq_normalForm⟩
    (.cons ⟨rfl, written_leftOut hurl fun _ _ => string_of_string?⟩
    (.cons ⟨rfl, written_leftOut hcluster fun _ _ => string_of_string?⟩ .nil)))

/-- So is what is reported about a workspace, where the phase is written in any case. -/
theorem WorkspaceStatus.toJson_eq_normalForm {j : Json} {s : WorkspaceStatus}
    (h : ofJson? j = some s) : s.toJson = normalForm j := by
  obtain ⟨field, hrecord, h⟩ := Option.bind_eq_some_iff.mp h
  obtain ⟨phase, hphase, h⟩ := Option.bind_eq_some_iff.mp h
  obtain rfl := Option.some.inj h
  rw [eq_fieldOf?_of_record? hrecord] at hphase
  exact object_eq_tidy (.cons ⟨rfl, written_asNull hphase⟩ .nil)

/-- What is known of a project is written in the normal form of what it was read from. -/
theorem ProjectSpec.toJson_eq_normalForm {j : Json} {s : ProjectSpec}
    (h : ofJson? j = some s) : s.toJson = normalForm j := by
  obtain ⟨field, hrecord, h⟩ := Option.bind_eq_some_iff.mp h
  obtain ⟨displayName, hdisplayName, h⟩ := Option.bind_eq_some_iff.mp h
  obtain ⟨maturity, hmaturity, h⟩ := Option.bind_eq_some_iff.mp h
  obtain ⟨repositories, hrepositories, h⟩ := Option.bind_eq_some_iff.mp h
  obtain rfl := Option.some.inj h
  rw [eq_fieldOf?_of_record? hrecord] at hdisplayName hmaturity hrepositories
  have hwritten : (FieldForm.filled "repositories" (.array [])).written _ =
      some (Json.ofStrings repositories) :=
    written_of_orDefault? hrepositories rfl rfl fun _ _ => ofStrings_of_list?
  exact object_eq_tidy (.cons ⟨rfl, written_asNull hdisplayName⟩
    (.cons ⟨rfl, written_asNull hmaturity⟩ (.cons ⟨rfl, hwritten⟩ .nil)))

/-- So is what is known of a staff member. -/
theorem StaffMemberSpec.toJson_eq_normalForm {j : Json} {s : StaffMemberSpec}
    (h : ofJson? j = some s) : s.toJson = normalForm j := by
  obtain ⟨field, hrecord, h⟩ := Option.bind_eq_some_iff.mp h
  obtain ⟨displayName, hdisplayName, h⟩ := Option.bind_eq_some_iff.mp h
  obtain ⟨primaryEmail, hprimaryEmail, h⟩ := Option.bind_eq_some_iff.mp h
  obtain ⟨githubAccount, hgithubAccount, h⟩ := Option.bind_eq_some_iff.mp h
  obtain rfl := Option.some.inj h
  rw [eq_fieldOf?_of_record? hrecord] at hdisplayName hprimaryEmail hgithubAccount
  have hwritten : (FieldForm.filled "primaryEmail" (.string "")).written _ =
      some (.string primaryEmail) :=
    written_of_orDefault? hprimaryEmail rfl rfl fun _ _ => string_of_string?
  exact object_eq_tidy (.cons ⟨rfl, written_asNull hdisplayName⟩
    (.cons ⟨rfl, hwritten⟩ (.cons ⟨rfl, written_asNull hgithubAccount⟩ .nil)))

/-! ### Objects -/

section

variable {kind : ObjectKind} {fields : List FieldForm} {j : Json}

/-- An object some of whose fields may be left out is tidy when each of its fields is. -/
theorem ObjectKind.objectOf_eq_tidy {members : List (String × Option Json)}
    (h : List.Forall₂ (fun m f => m.1 = f.name ∧
      f.written (Json.fieldOf? (fields.map (·.name)) f.name j) = m.2) members fields) :
    Json.objectOf (("apiVersion", some (.string kind.apiVersion)) ::
      ("kind", some (.string kind.name)) :: members) = kind.tidy fields j := by
  rw [tidy, ← Json.objectOf_eq_tidy h]
  rfl

/-- So is an object that has all of its fields. -/
theorem ObjectKind.object_eq_tidy {members : List (String × Json)}
    (h : List.Forall₂ (fun m f => m.1 = f.name ∧
      f.written (Json.fieldOf? (fields.map (·.name)) f.name j) = some m.2) members fields) :
    Json.object (("apiVersion", .string kind.apiVersion) ::
      ("kind", .string kind.name) :: members) = kind.tidy fields j := by
  rw [tidy, ← Json.object_eq_tidy h]
  rfl

end

/-- The fields of a workspace were read from those of a value. -/
theorem Workspace.fields_of_ofJson? {j : Json} {ws : Workspace} (h : ofJson? j = some ws) :
    let field := (Json.fieldOf? ["metadata", "spec", "status"] · j)
    Json.required? ObjectMeta.ofJson? (field "metadata") = some ws.metadata ∧
    Json.required? WorkspaceSpec.ofJson? (field "spec") = some ws.spec ∧
    Json.optional? WorkspaceStatus.ofJson? (field "status") = some ws.status := by
  obtain ⟨field, hrecord, h⟩ := Option.bind_eq_some_iff.mp h
  obtain ⟨metadata, hmetadata, h⟩ := Option.bind_eq_some_iff.mp h
  obtain ⟨spec, hspec, h⟩ := Option.bind_eq_some_iff.mp h
  obtain ⟨status, hstatus, h⟩ := Option.bind_eq_some_iff.mp h
  obtain rfl := Option.some.inj h
  rw [eq_fieldOf?_of_record? hrecord] at hmetadata hspec hstatus
  exact ⟨hmetadata, hspec, hstatus⟩

/-- A workspace is written in the normal form of the value that it was read from. -/
theorem Workspace.toJson_eq_normalForm {j : Json} {ws : Workspace} (h : ofJson? j = some ws) :
    ws.toJson = normalForm j := by
  obtain ⟨hmetadata, hspec, hstatus⟩ := fields_of_ofJson? h
  have hwritten : (FieldForm.leftOut "spec" WorkspaceSpec.normalForm).written _ =
      some ws.spec.toJson :=
    written_of_required? hspec rfl fun _ _ => WorkspaceSpec.toJson_eq_normalForm
  exact ObjectKind.objectOf_eq_tidy (.cons ⟨rfl, ObjectMeta.written_normalForm hmetadata⟩
    (.cons ⟨rfl, hwritten⟩
    (.cons ⟨rfl, written_leftOut hstatus fun _ _ => WorkspaceStatus.toJson_eq_normalForm⟩ .nil)))

/-- The fields of a project were read from those of a value. -/
theorem Project.fields_of_ofJson? {j : Json} {p : Project} (h : ofJson? j = some p) :
    let field := (Json.fieldOf? ["metadata", "spec"] · j)
    Json.required? ObjectMeta.ofJson? (field "metadata") = some p.metadata ∧
    Json.required? ProjectSpec.ofJson? (field "spec") = some p.spec := by
  obtain ⟨field, hrecord, h⟩ := Option.bind_eq_some_iff.mp h
  obtain ⟨metadata, hmetadata, h⟩ := Option.bind_eq_some_iff.mp h
  obtain ⟨spec, hspec, h⟩ := Option.bind_eq_some_iff.mp h
  obtain rfl := Option.some.inj h
  rw [eq_fieldOf?_of_record? hrecord] at hmetadata hspec
  exact ⟨hmetadata, hspec⟩

/-- A project is written in the normal form of the value that it was read from. -/
theorem Project.toJson_eq_normalForm {j : Json} {p : Project} (h : ofJson? j = some p) :
    p.toJson = normalForm j := by
  obtain ⟨hmetadata, hspec⟩ := fields_of_ofJson? h
  have hwritten : (FieldForm.leftOut "spec" ProjectSpec.normalForm).written _ =
      some p.spec.toJson :=
    written_of_required? hspec rfl fun _ _ => ProjectSpec.toJson_eq_normalForm
  exact ObjectKind.object_eq_tidy (.cons ⟨rfl, ObjectMeta.written_normalForm hmetadata⟩
    (.cons ⟨rfl, hwritten⟩ .nil))

/-- The fields of a staff member were read from those of a value. -/
theorem StaffMember.fields_of_ofJson? {j : Json} {m : StaffMember} (h : ofJson? j = some m) :
    let field := (Json.fieldOf? ["metadata", "spec"] · j)
    Json.required? ObjectMeta.ofJson? (field "metadata") = some m.metadata ∧
    Json.required? StaffMemberSpec.ofJson? (field "spec") = some m.spec := by
  obtain ⟨field, hrecord, h⟩ := Option.bind_eq_some_iff.mp h
  obtain ⟨metadata, hmetadata, h⟩ := Option.bind_eq_some_iff.mp h
  obtain ⟨spec, hspec, h⟩ := Option.bind_eq_some_iff.mp h
  obtain rfl := Option.some.inj h
  rw [eq_fieldOf?_of_record? hrecord] at hmetadata hspec
  exact ⟨hmetadata, hspec⟩

/-- A staff member is written in the normal form of the value that it was read from. -/
theorem StaffMember.toJson_eq_normalForm {j : Json} {m : StaffMember} (h : ofJson? j = some m) :
    m.toJson = normalForm j := by
  obtain ⟨hmetadata, hspec⟩ := fields_of_ofJson? h
  have hwritten : (FieldForm.leftOut "spec" StaffMemberSpec.normalForm).written _ =
      some m.spec.toJson :=
    written_of_required? hspec rfl fun _ _ => StaffMemberSpec.toJson_eq_normalForm
  exact ObjectKind.object_eq_tidy (.cons ⟨rfl, ObjectMeta.written_normalForm hmetadata⟩
    (.cons ⟨rfl, hwritten⟩ .nil))

/-! ### Metadata that were read -/

theorem Json.int64?_integer_of_int64? {v : Json} {n : Int} (h : int64? v = some n) :
    int64? (.integer n) = some n := by
  cases v with
  | integer k =>
    rw [int64?] at h
    split at h
    next hrange =>
      obtain rfl := Option.some.inj h
      rw [int64?, if_pos hrange]
    next => cases h
  | _ => cases h

/-- A field set that was read is one that can be held. -/
theorem ManagedFields.isHoldable_of_ofJson? {j : Json} {f : ManagedFields}
    (h : ofJson? j = some f) : f.IsHoldable := by
  simp only [ofJson?, Option.bind_eq_bind, Option.bind_eq_some_iff] at h
  obtain ⟨field, -, _, -, _, -, fieldsV1, hread, _, -, _, -, _, -, _, -, h⟩ := h
  obtain rfl := Option.some.inj h
  cases fieldsV1 with
  | none => rfl
  | some a =>
    obtain ⟨v, hnull, hv⟩ := Json.exists_of_last? hread
    rw [Json.any?] at hv
    split at hv
    next hreadable =>
      obtain rfl := Option.some.inj hv
      rw [IsHoldable, Option.toList_some, Json.last?_singleton hnull, Json.any?, if_pos hreadable]
      rfl
    next => cases hv

/-- Metadata that were read can be held: what was read from a value fits into one. -/
theorem ObjectMeta.isHoldable_of_ofJson? {j : Json} {m : ObjectMeta} (h : ofJson? j = some m) :
    m.IsHoldable := by
  -- One member is read after the other; three of them bound what can be held.
  rw [ofJson?] at h
  iterate 3 obtain ⟨_, -, h⟩ := Option.bind_eq_some_iff.mp h
  obtain ⟨gracePeriod, hgracePeriod, h⟩ := Option.bind_eq_some_iff.mp h
  iterate 3 obtain ⟨_, -, h⟩ := Option.bind_eq_some_iff.mp h
  obtain ⟨generation, hgeneration, h⟩ := Option.bind_eq_some_iff.mp h
  obtain ⟨_, -, h⟩ := Option.bind_eq_some_iff.mp h
  obtain ⟨managedFields, hmanaged, h⟩ := Option.bind_eq_some_iff.mp h
  iterate 6 obtain ⟨_, -, h⟩ := Option.bind_eq_some_iff.mp h
  obtain rfl := Option.some.inj h
  refine ⟨?_, ?_, ?_⟩
  · rintro n rfl
    obtain ⟨v, -, hv⟩ := Json.exists_of_last? hgracePeriod
    exact Json.int64?_integer_of_int64? hv
  · rintro n rfl
    obtain ⟨v, -, hv⟩ := Json.exists_of_last? hgeneration
    exact Json.int64?_integer_of_int64? hv
  · rintro l rfl f hf
    obtain ⟨v, -, hv⟩ := Json.exists_of_last? hmanaged
    obtain ⟨w, hw⟩ := Json.exists_of_list? hv hf
    exact ManagedFields.isHoldable_of_ofJson? hw

/-- A time is written without its fraction of a second, whether or not it was dropped before. -/
theorem Timestamp.toJson_toSecond (t : Timestamp) : t.toSecond.toJson = t.toJson := by
  rw [toJson, toJson, render_toSecond]

/-- What is said about managed fields is written with its time to the second. -/
theorem ManagedFields.toJson_toSecond (f : ManagedFields) : f.toSecond.toJson = f.toJson := by
  simp only [toJson, toSecond, Option.map_map, Function.comp_def, Timestamp.toJson_toSecond]

/-- The fractions of seconds are not written, so metadata with and without them are written
alike. -/
theorem ObjectMeta.toJson_toSecond (m : ObjectMeta) : m.toSecond.toJson = m.toJson := by
  simp only [toJson, toSecond, Option.map_map, List.map_map, Function.comp_def,
    Timestamp.toJson_toSecond, ManagedFields.toJson_toSecond]

/-- Metadata that were read are written as before when they are read again. -/
theorem ObjectMeta.exists_toJson_eq {j : Json} {m : ObjectMeta} (h : ofJson? j = some m) :
    ∃ again, ofJson? m.toJson = some again ∧ again.toJson = m.toJson :=
  ⟨m.toSecond, ofJson?_toJson_of_isHoldable (isHoldable_of_ofJson? h), m.toJson_toSecond⟩

/-! ### Typed objects -/

/-- Objects survive being written as values. -/
structure IsFaithful {α : Type} (decode : Json → Option α) (encode : α → Json)
    (metadata : α → ObjectMeta) (normalForm : Json → Json) : Prop where
  /-- An object is read back from what it is written as when its metadata are, and only then. -/
  read_back (a : α) : decode (encode a) = some a ↔
    ObjectMeta.ofJson? (metadata a).toJson = some (metadata a)
  /-- An object is written in the normal form of the value that it was read from. -/
  normal {j : Json} {a : α} : decode j = some a → encode a = normalForm j
  /-- What an object that was read is written as can be read, and is written as it is. -/
  stable {j : Json} {a : α} : decode j = some a →
    ∃ again, decode (encode a) = some again ∧ encode again = encode a

section

variable {α : Type} {decode : Json → Option α} {encode : α → Json} {metadata : α → ObjectMeta}
  {normalForm : Json → Json} {replace : α → ObjectMeta → α}

/-- Objects are faithful when they are read back but for their metadata, and have these from the
value that they were read from. -/
theorem IsFaithful.of_metadata (hreplace : ∀ a m, metadata (replace a m) = m)
    (hsame : ∀ a, replace a (metadata a) = a)
    (hread : ∀ a, decode (encode a) =
      (ObjectMeta.ofJson? (metadata a).toJson).map (replace a))
    (hwrite : ∀ a m, m.toJson = (metadata a).toJson → encode (replace a m) = encode a)
    (hsource : ∀ {j a}, decode j = some a → ∃ v, ObjectMeta.ofJson? v = some (metadata a))
    (hnormal : ∀ {j a}, decode j = some a → encode a = normalForm j) :
    IsFaithful decode encode metadata normalForm where
  read_back a := by
    rw [hread, Option.map_eq_some_iff]
    constructor
    · rintro ⟨m, hm, hback⟩
      have hmetadata : m = metadata a := (hreplace a m).symm.trans (congrArg metadata hback)
      rw [hm, hmetadata]
    · intro h
      exact ⟨_, h, hsame a⟩
  normal := hnormal
  stable := by
    intro j a h
    obtain ⟨v, hv⟩ := hsource h
    obtain ⟨m, hm, hsame⟩ := ObjectMeta.exists_toJson_eq hv
    exact ⟨replace a m, by rw [hread, hm, Option.map_some], hwrite a m hsame⟩

end

/-- Workspaces are faithful: they survive being written and read, and are written in normal form. -/
theorem Workspace.isFaithful :
    IsFaithful Workspace.ofJson? Workspace.toJson Workspace.metadata Workspace.normalForm :=
  .of_metadata (fun _ _ => rfl) (fun _ => rfl) ofJson?_toJson_eq
    (fun _ _ h => by simp only [toJson, h])
    (fun h => Json.exists_of_required? (fields_of_ofJson? h).1) toJson_eq_normalForm

/-- Projects are faithful, in both directions. -/
theorem Project.isFaithful :
    IsFaithful Project.ofJson? Project.toJson Project.metadata Project.normalForm :=
  .of_metadata (fun _ _ => rfl) (fun _ => rfl) ofJson?_toJson_eq
    (fun _ _ h => by simp only [toJson, h])
    (fun h => Json.exists_of_required? (fields_of_ofJson? h).1) toJson_eq_normalForm

/-- Staff members are faithful, in both directions. -/
theorem StaffMember.isFaithful :
    IsFaithful StaffMember.ofJson? StaffMember.toJson StaffMember.metadata
      StaffMember.normalForm :=
  .of_metadata (fun _ _ => rfl) (fun _ => rfl) ofJson?_toJson_eq
    (fun _ _ h => by simp only [toJson, h])
    (fun h => Json.exists_of_required? (fields_of_ofJson? h).1) toJson_eq_normalForm

/-- Workspaces, projects and staff members survive being written. Each is read back from what it is
written as exactly when its metadata are; it is written in the normal form of the value that it was
read from; and what was read and written once is read and written as it is from then on, whatever
the value was. -/
theorem typed_objects_survive_the_wire :
    IsFaithful Workspace.ofJson? Workspace.toJson Workspace.metadata Workspace.normalForm ∧
    IsFaithful Project.ofJson? Project.toJson Project.metadata Project.normalForm ∧
    IsFaithful StaffMember.ofJson? StaffMember.toJson StaffMember.metadata
      StaffMember.normalForm :=
  ⟨Workspace.isFaithful, Project.isFaithful, StaffMember.isFaithful⟩

/-- A project with members that are no fields, a field that is `null`, fields that are absent and
a nanosecond. -/
def scribbledAlpha : Json :=
  .object [
    ("kind", .string "Idea"),
    ("metadata", .object [
      ("rank", .integer 7),
      ("name", .string "alpha"),
      ("creationTimestamp", .string "2024-02-29T12:30:00.000000001+02:00")]),
    ("spec", .object [("maturity", .null), ("lead", .string "ann")])]

/-- The same project in normal form, written out in full. -/
def tidyAlpha : Json :=
  .object [
    ("apiVersion", .string "maintainer-d.cncf.io/v1alpha1"),
    ("kind", .string "Project"),
    ("metadata", .object [
      ("creationTimestamp", .string "2024-02-29T10:30:00Z"),
      ("name", .string "alpha")]),
    ("spec", .object [
      ("displayName", .null), ("maturity", .null), ("repositories", .array [])])]

/-- The scribbled value can be read as a project. -/
theorem isSome_scribbledAlpha : (Project.ofJson? scribbledAlpha).isSome = true := by
  decide +kernel

theorem normalForm_scribbledAlpha : Project.normalForm scribbledAlpha = tidyAlpha := by
  rfl

/-- The scribbled project is written in normal form, from which it is read and written as it is. -/
theorem alpha_is_written_in_normal_form :
    ∃ alpha, Project.ofJson? scribbledAlpha = some alpha ∧ alpha.toJson = tidyAlpha ∧
      ∃ again, Project.ofJson? tidyAlpha = some again ∧ again.toJson = tidyAlpha := by
  obtain ⟨alpha, halpha⟩ := Option.isSome_iff_exists.mp isSome_scribbledAlpha
  obtain ⟨-, hproject, -⟩ := typed_objects_survive_the_wire
  have hwritten : alpha.toJson = tidyAlpha := by
    rw [hproject.normal halpha, normalForm_scribbledAlpha]
  obtain ⟨again, hagain, hsame⟩ := hproject.stable halpha
  rw [hwritten] at hagain hsame
  exact ⟨alpha, halpha, hwritten, again, hagain, hsame⟩

end WorkspaceAccess
