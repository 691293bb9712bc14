import WorkspaceAccess.Api.Refusal
import WorkspaceAccess.Object.ClusterRoleBinding
import WorkspaceAccess.Object.Project
import WorkspaceAccess.Object.StaffMember
import WorkspaceAccess.Object.Workspace
import WorkspaceAccess.Proofs.Json.RoundTrip
import WorkspaceAccess.Proofs.Time.Timestamp

/-!
# What Survives Being Written

An object that is written as a JSON value is read back from it. Texts, truth values, lists and maps
of texts always survive; a time does to the second, and a number when it fits in 64 bits.

The objects are records, and the lemmas about them are built like the records themselves: what a
field is read as is decided by what its value is read as, and by whether it may be absent, may be
`null`, or counts the last of several values. So each type has one short lemma, in which its fields
are listed. Metadata are part of every object and are the only place where anything is lost. Times
have fractions of seconds that are not written; the generation and the grace period are numbers that
a value need not be able to hold; and managed fields hold a value of any kind, of which some cannot
be held and `null` stands for none. `ObjectMeta.IsHoldable` leaves the latter two out, and
`ObjectMeta.IsWritable` the fractions of seconds as well.

An object that goes over the wire is a text. A value without numbers is read back from its compact
form, so that an object whose metadata have none is understood when it is replied.

## Main results

* `exists_record`, `exists_full_record`: a record that is written with distinct names has the fields
  that were written.
* `ObjectMeta.ofJson?_toJson_of_isHoldable`: of metadata that can be held nothing is lost but the
  fractions of seconds.
* `ObjectMeta.ofJson?_toJson`: metadata that can be written down survive.
* `ClusterRoleBinding.ofJson?_toJson`: a binding survives when its metadata do.
* `Workspace.ofJson?_toJson_eq`, `Project.ofJson?_toJson_eq`, `StaffMember.ofJson?_toJson_eq`: all
  else of an object is read back whatever becomes of the metadata.
* `Reply.decode_ofJson`: what has no numbers in it is understood when it is replied.
-/

namespace WorkspaceAccess

namespace Json

variable {α : Type}

/-- A field of a record is read as it was written. -/
theorem members_objectOf {fields : List (String × Option Json)}
    (hdistinct : (fields.map (·.1)).Nodup) {name : String} {v : Option Json}
    (h : (name, v) ∈ fields) :
    ((fields.filterMap fun m => m.2.map (m.1, ·)).filter (·.1 == name)).map (·.2) = v.toList := by
  induction fields with
  | nil => cases h
  | cons m rest ih =>
    obtain ⟨hm, hrest⟩ := List.nodup_cons.mp hdistinct
    rcases List.mem_cons.mp h with rfl | htail
    · have hnone : (rest.filterMap fun m => m.2.map (m.1, ·)).filter (·.1 == name) = [] := by
        rw [List.filter_eq_nil_iff]
        intro e he
        obtain ⟨other, hother, hvalue⟩ := List.mem_filterMap.mp he
        obtain ⟨_, -, rfl⟩ := Option.map_eq_some_iff.mp hvalue
        have hne : other.1 ≠ name := fun heq => hm (List.mem_map.mpr ⟨other, hother, heq⟩)
        simpa using hne
      cases v <;> simp [hnone]
    · have hne : m.1 ≠ name := fun heq => hm (List.mem_map.mpr ⟨_, htail, heq.symm⟩)
      obtain ⟨n, w⟩ := m
      cases w <;> simpa [hne] using ih hrest htail

/-- A record that is written with distinct names has the fields that were written. -/
theorem exists_field {j : Json} {fields : List (String × Option Json)} (h : j = objectOf fields)
    (hdistinct : (fields.map (·.1)).Nodup) :
    ∃ field, j.object? = some field ∧
      ∀ {name : String} {v : Option Json}, (name, v) ∈ fields → field name = v.toList := by
  subst h
  exact ⟨_, rfl, members_objectOf hdistinct⟩

/-- The last member of a name is the last of the members of that name. -/
theorem lastOf?_eq_getLast? (name : String) (members : List (String × Json)) :
    lastOf? name members = ((members.filter (·.1 == name)).map (·.2)).getLast? := by
  induction members with
  | nil => rfl
  | cons m rest ih =>
    rw [lastOf?, ih, List.filter_cons]
    by_cases hname : m.1 = name
    · rw [if_pos hname, if_pos (beq_iff_eq.mpr hname), List.map_cons, List.getLast?_cons,
        Option.or_some]
    · rw [if_neg hname, if_neg (hname ∘ beq_iff_eq.mp), Option.or_none]

/-- A record that is written with distinct names, among them those that are read, has the fields
that were written. -/
theorem exists_record {j : Json} {fields : List (String × Option Json)} (names : List String)
    (least : Nat) (h : j = objectOf fields) (hdistinct : (fields.map (·.1)).Nodup)
    (hnames : names ⊆ fields.map (·.1)) :
    ∃ field, j.record? names least = some field ∧
      ∀ {name : String} {v : Option Json}, (name, v) ∈ fields → field name = v := by
  subst h
  have honce : (names.any fun n => 1 < (fields.filterMap fun m => m.2.map (m.1, ·)).countP
      (·.1 == n)) = false := by
    rw [List.any_eq_false]
    intro n hn
    obtain ⟨⟨name, v⟩, hfield, rfl⟩ := List.mem_map.mp (hnames hn)
    have hlength := congrArg List.length (members_objectOf hdistinct hfield)
    rw [List.length_map, ← List.countP_eq_length_filter] at hlength
    have hle : v.toList.length ≤ 1 := by cases v <;> simp
    simpa only [decide_eq_true_eq, hlength, Nat.not_lt] using hle
  refine ⟨fun n => lastOf? n (fields.filterMap fun m => m.2.map (m.1, ·)), ?_, ?_⟩
  · rw [objectOf, record?, honce, if_neg Bool.false_ne_true]
  · intro name v hfield
    dsimp only
    rw [lastOf?_eq_getLast?, members_objectOf hdistinct hfield]
    cases v <;> rfl

/-- So has one that is written in full: no field is repeated, and each that is asked for is the one
that was written. -/
theorem exists_full_record {j : Json} {members : List (String × Json)} (names : List String)
    (least : Nat) (h : j = object members) (hdistinct : (members.map (·.1)).Nodup)
    (hnames : names ⊆ members.map (·.1)) :
    ∃ field, j.record? names least = some field ∧
      ∀ {name : String} {v : Json}, (name, v) ∈ members → field name = some v := by
  have hobject : j = objectOf (members.map fun m => (m.1, some m.2)) := by
    rw [h, objectOf_map_some]
  have hfields : (members.map fun m => (m.1, some m.2)).map (·.1) = members.map (·.1) := by
    simp [Function.comp_def]
  obtain ⟨field, hrecord, hfield⟩ :=
    exists_record names least hobject (hfields ▸ hdistinct) (hfields ▸ hnames)
  exact ⟨field, hrecord, fun hm => hfield (List.mem_map.mpr ⟨_, hm, rfl⟩)⟩

/-- A field that may be absent is read as what its value is read as, which may not be written as
`null`. -/
theorem optional?_map_eq {decode : Json → Option α} {encode : α → Json} {read : α → α}
    {x : Option α} (hnull : ∀ a, (encode a).isNull = false)
    (h : ∀ a, x = some a → decode (encode a) = some (read a)) :
    optional? decode (x.map encode) = some (x.map read) := by
  cases x with
  | none => rfl
  | some a =>
    have hnot := hnull a
    rw [Option.map_some, optional?.eq_def]
    cases hencode : encode a <;> simp_all [isNull]

/-- A field that may be absent survives when its value does. -/
theorem optional?_map {decode : Json → Option α} {encode : α → Json} {x : Option α}
    (hnull : ∀ a, (encode a).isNull = false) (h : ∀ a, x = some a → decode (encode a) = some a) :
    optional? decode (x.map encode) = some x := by
  rw [optional?_map_eq hnull h, Option.map_id']

/-- A text that is written as `null` for none survives. -/
theorem optional?_ofOption (x : Option String) :
    optional? string? (some (ofOption x)) = some x := by
  cases x <;> rfl

/-- A field that the last of several values counts for is read likewise. -/
theorem last?_toList_eq {decode : Json → Option α} {encode : α → Json} {read : α → α}
    {x : Option α} (hnull : ∀ a, (encode a).isNull = false)
    (h : ∀ a, x = some a → decode (encode a) = some (read a)) :
    last? decode (x.map encode).toList = some (x.map read) := by
  have hvalue := optional?_map_eq hnull h
  cases x with
  | none => rfl
  | some a =>
    rw [Option.map_some] at hvalue
    simp [last?, hvalue]

/-- So an optional field survives when its value does, and is never mistaken for `null`. -/
theorem last?_toList {decode : Json → Option α} {encode : α → Json} {x : Option α}
    (hnull : ∀ a, (encode a).isNull = false) (h : ∀ a, x = some a → decode (encode a) = some a) :
    last? decode (x.map encode).toList = some x := by
  rw [last?_toList_eq hnull h, Option.map_id']

/-- A list is read as what its items are read as. -/
theorem list?_map_eq {decode : Json → Option α} {encode : α → Json} {read : α → α} {l : List α}
    (h : ∀ a ∈ l, decode (encode a) = some (read a)) :
    list? decode (.array (l.map encode)) = some (l.map read) := by
  rw [list?]
  induction l with
  | nil => rfl
  | cons a l ih =>
    rw [List.map_cons, List.mapM_cons, h a List.mem_cons_self,
      ih fun b hb => h b (List.mem_cons_of_mem a hb)]
    rfl

/-- A list survives when its items do, by induction on the items. -/
theorem list?_map {decode : Json → Option α} {encode : α → Json} {l : List α}
    (h : ∀ a ∈ l, decode (encode a) = some a) :
    list? decode (.array (l.map encode)) = some l := by
  rw [list?_map_eq h, List.map_id']

/-- A map of texts survives, as its entries are in order and without repetitions. -/
theorem stringMap?_ofStringMap (m : SortedMap String String) :
    stringMap? (ofStringMap m) = some m := by
  have hentries : (m.entries.map fun e => (e.1, Json.string e.2)).mapM
      (fun e => (string? e.2).map (e.1, ·)) = some m.entries := by
    generalize m.entries = entries
    induction entries with
    | nil => rfl
    | cons e rest ih =>
      rw [List.map_cons, List.mapM_cons, ih]
      rfl
  have hsame : SortedMap.ofList m.entries = m := by
    refine SortedMap.ext fun k => ?_
    rw [SortedMap.ofList, SortedMap.get?_insertAll m.sorted]
    exact Option.or_none
  show (_ : Option _).map SortedMap.ofList = some m
  rw [hentries, Option.map_some, hsame]

end Json

open Json (exists_field exists_full_record exists_record last? last?_toList last?_toList_eq
  list?_map list?_map_eq optional? optional?_map optional?_ofOption stringMap?_ofStringMap)

/-- A time survives to the second, which is what is written of it. -/
theorem Timestamp.ofJson?_toJson (t : Timestamp) : ofJson? t.toJson = some t.toSecond := by
  rw [ofJson?, toJson, Json.string?, Option.bind_some, parse?_render]

/-- The owner of an object survives when it is written and read. -/
theorem OwnerReference.ofJson?_toJson (r : OwnerReference) : ofJson? r.toJson = some r := by
  obtain ⟨_, block, controller, _, _, _⟩ := r
  cases block <;> cases controller <;> rfl

namespace ManagedFields

/-- What is said about fields with its time to the second, as it is when it has been written and
read. -/
def toSecond (f : ManagedFields) : ManagedFields :=
  { f with time := f.time.map Timestamp.toSecond }

/-- The field set is a value that can be held, and not `null`, which stands for none. -/
def IsHoldable (f : ManagedFields) : Prop :=
  last? Json.any? f.fieldsV1.toList = some f.fieldsV1

/-- What is said about fields survives to the second, but for a field set that cannot be held. -/
theorem ofJson?_toJson_eq (f : ManagedFields) :
    ofJson? f.toJson = (last? Json.any? f.fieldsV1.toList).map fun fieldsV1 =>
      { f.toSecond with fieldsV1 } := by
  obtain ⟨field, hobject, hfield⟩ := exists_field (toJson.eq_def f) (by simp)
  have text : ∀ (name : String) (x : Option String), field name = (x.map Json.string).toList →
      last? Json.string? (field name) = some x :=
    fun _ _ h => h ▸ last?_toList (fun _ => rfl) fun _ _ => rfl
  have apiVersion := text "apiVersion" f.apiVersion (hfield (by simp))
  have fieldsType := text "fieldsType" f.fieldsType (hfield (by simp))
  have manager := text "manager" f.manager (hfield (by simp))
  have operation := text "operation" f.operation (hfield (by simp))
  have subresource := text "subresource" f.subresource (hfield (by simp))
  have time : last? Timestamp.ofJson? (field "time") = some f.toSecond.time := by
    rw [hfield (v := f.time.map Timestamp.toJson) (by simp)]
    exact last?_toList_eq (fun _ => rfl) fun t _ => t.ofJson?_toJson
  dsimp only [ofJson?]
  rw [hobject]
  dsimp only [Option.bind_eq_bind, Option.bind_some]
  rw [apiVersion, fieldsType, hfield (v := f.fieldsV1) (by simp), manager, operation, subresource,
    time]
  cases last? Json.any? f.fieldsV1.toList <;> rfl

/-- What is said about fields survives to the second when the field set can be held. -/
theorem ofJson?_toJson {f : ManagedFields} (h : f.IsHoldable) :
    ofJson? f.toJson = some f.toSecond := by
  rw [ofJson?_toJson_eq, h]
  rfl

/-- What survives whole can be held and has no fraction of a second. -/
theorem isHoldable_of_ofJson?_toJson {f : ManagedFields} (h : ofJson? f.toJson = some f) :
    f.IsHoldable ∧ f.toSecond = f := by
  rw [ofJson?_toJson_eq] at h
  obtain ⟨fieldsV1, hread, hsame⟩ := Option.map_eq_some_iff.mp h
  obtain rfl : fieldsV1 = f.fieldsV1 := congrArg ManagedFields.fieldsV1 hsame
  exact ⟨hread, hsame⟩

end ManagedFields

namespace ObjectMeta

/-- The metadata with all times to the second, which is what is left of them when they have been
written and read. -/
def toSecond (m : ObjectMeta) : ObjectMeta :=
  { m with
    creationTimestamp := m.creationTimestamp.map Timestamp.toSecond
    deletionTimestamp := m.deletionTimestamp.map Timestamp.toSecond
    managedFields := m.managedFields.map (·.map ManagedFields.toSecond) }

/-- The numbers of an object fit in 64 bits, and what is said about managed fields can be held. -/
structure IsHoldable (m : ObjectMeta) : Prop where
  /-- The grace period fits in 64 bits, if there is one. -/
  gracePeriod : ∀ n, m.deletionGracePeriodSeconds = some n → Json.int64? (.integer n) = some n
  /-- The generation fits in 64 bits, if there is one. -/
  generation : ∀ n, m.generation = some n → Json.int64? (.integer n) = some n
  /-- What is said about managed fields can be held. -/
  managed : ∀ l, m.managedFields = some l → ∀ f ∈ l, f.IsHoldable

/-- The times, numbers and managed fields of an object are such as can be written down. -/
structure IsWritable (m : ObjectMeta) : Prop where
  /-- The time of the creation is one to the second. -/
  creation : ∀ t, m.creationTimestamp = some t → Timestamp.ofJson? t.toJson = some t
  /-- The time of the deletion is one to the second. -/
  deletion : ∀ t, m.deletionTimestamp = some t → Timestamp.ofJson? t.toJson = some t
  /-- The grace period fits in 64 bits, if there is one. -/
  gracePeriod : ∀ n, m.deletionGracePeriodSeconds = some n → Json.int64? (.integer n) = some n
  /-- The generation fits in 64 bits, if there is one. -/
  generation : ∀ n, m.generation = some n → Json.int64? (.integer n) = some n
  /-- What is said about managed fields can be written. -/
  managed : ∀ l, m.managedFields = some l → ∀ f ∈ l, ManagedFields.ofJson? f.toJson = some f

/-- What can be written down can be held, so that it may be read as well. -/
theorem IsWritable.isHoldable {m : ObjectMeta} (h : m.IsWritable) : m.IsHoldable where
  gracePeriod := h.gracePeriod
  generation := h.generation
  managed l hl f hf := (ManagedFields.isHoldable_of_ofJson?_toJson (h.managed l hl f hf)).1

/-- Metadata that can be written down have no fractions of seconds. -/
theorem IsWritable.toSecond_eq {m : ObjectMeta} (h : m.IsWritable) : m.toSecond = m := by
  have time : ∀ x : Option Timestamp, (∀ t, x = some t → Timestamp.ofJson? t.toJson = some t) →
      x.map Timestamp.toSecond = x := by
    intro x hx
    cases x with
    | none => rfl
    | some t => exact t.ofJson?_toJson.symm.trans (hx t rfl)
  have managed : m.managedFields.map (·.map ManagedFields.toSecond) = m.managedFields := by
    cases hl : m.managedFields with
    | none => rfl
    | some l =>
      have hsame : ∀ f ∈ l, f.toSecond = f := fun f hf =>
        (ManagedFields.isHoldable_of_ofJson?_toJson (h.managed l hl f hf)).2
      rw [Option.map_some, List.map_congr_left (g := id) hsame, List.map_id]
  rw [toSecond, time _ h.creation, time _ h.deletion, managed]

/-- Metadata that can be held survive to the second. -/
theorem ofJson?_toJson_of_isHoldable {m : ObjectMeta} (h : m.IsHoldable) :
    ofJson? m.toJson = some m.toSecond := by
  obtain ⟨field, hobject, hfield⟩ := exists_field (toJson.eq_def m) (by simp)
  -- Most fields are of one of four kinds, which are read alike.
  have text : ∀ (name : String) (x : Option String), field name = (x.map Json.string).toList →
      last? Json.string? (field name) = some x :=
    fun _ _ h => h ▸ last?_toList (fun _ => rfl) fun _ _ => rfl
  have time : ∀ (name : String) (x : Option Timestamp),
      field name = (x.map Timestamp.toJson).toList →
      last? Timestamp.ofJson? (field name) = some (x.map Timestamp.toSecond) :=
    fun _ _ h => h ▸ last?_toList_eq (fun _ => rfl) fun t _ => t.ofJson?_toJson
  have number : ∀ (name : String) (x : Option Int),
      (∀ n, x = some n → Json.int64? (.integer n) = some n) →
      field name = (x.map Json.integer).toList → last? Json.int64? (field name) = some x :=
    fun _ _ hx h => h ▸ last?_toList (fun _ => rfl) hx
  have texts : ∀ (name : String) (x : Option Annotations),
      field name = (x.map Json.ofStringMap).toList →
      last? Json.stringMap? (field name) = some x :=
    fun _ _ h => h ▸ last?_toList (fun _ => rfl) fun a _ => stringMap?_ofStringMap a
  have finalizers : last? (Json.list? Json.string?) (field "finalizers") = some m.finalizers := by
    rw [hfield (v := m.finalizers.map Json.ofStrings) (by simp)]
    exact last?_toList (fun _ => rfl) fun l _ => list?_map fun _ _ => rfl
  have owners : last? (Json.list? OwnerReference.ofJson?) (field "ownerReferences") =
      some m.ownerReferences := by
    rw [hfield (v := m.ownerReferences.map fun l => .array (l.map OwnerReference.toJson))
      (by simp)]
    exact last?_toList (fun _ => rfl) fun l _ => list?_map fun r _ => r.ofJson?_toJson
  have managed : last? (Json.list? ManagedFields.ofJson?) (field "managedFields") =
      some m.toSecond.managedFields := by
    rw [hfield (v := m.managedFields.map fun l => .array (l.map ManagedFields.toJson)) (by simp)]
    exact last?_toList_eq (fun _ => rfl) fun l hl =>
      list?_map_eq fun f hf => ManagedFields.ofJson?_toJson (h.managed l hl f hf)
  have annotations := texts "annotations" m.annotations (hfield (by simp))
  have labels := texts "labels" m.labels (hfield (by simp))
  have creation := time "creationTimestamp" m.creationTimestamp (hfield (by simp))
  have deletion := time "deletionTimestamp" m.deletionTimestamp (hfield (by simp))
  have gracePeriod := number "deletionGracePeriodSeconds" _ h.gracePeriod (hfield (by simp))
  have generation := number "generation" _ h.generation (hfield (by simp))
  have generateName := text "generateName" m.generateName (hfield (by simp))
  have name := text "name" m.name (hfield (by simp))
  have ns := text "namespace" m.ns (hfield (by simp))
  have resourceVersion := text "resourceVersion" m.resourceVersion (hfield (by simp))
  have selfLink := text "selfLink" m.selfLink (hfield (by simp))
  have uid := text "uid" m.uid (hfield (by simp))
  dsimp only [ofJson?]
  rw [hobject]
  dsimp only [Option.bind_eq_bind, Option.bind_some]
  rw [annotations, creation, gracePeriod, deletion, finalizers, generateName, generation, labels,
    managed, name, ns, owners, resourceVersion, selfLink, uid]
  rfl

/-- Metadata that can be written down survive: every field is found again and is as it was. -/
theorem ofJson?_toJson {m : ObjectMeta} (h : m.IsWritable) : ofJson? m.toJson = some m := by
  rw [ofJson?_toJson_of_isHoldable h.isHoldable, h.toSecond_eq]

end ObjectMeta

/-- The role of a binding survives when it is written and read. -/
theorem RoleRef.ofJson?_toJson (r : RoleRef) : ofJson? r.toJson = some r := rfl

/-- A subject of a binding survives, with or without a namespace. -/
theorem Subject.ofJson?_toJson (s : Subject) : ofJson? s.toJson = some s := by
  obtain ⟨apiGroup, _, _, ns⟩ := s
  cases apiGroup <;> cases ns <;> rfl

/-- A binding survives when its metadata can be written down. -/
theorem ClusterRoleBinding.ofJson?_toJson {b : ClusterRoleBinding} (h : b.metadata.IsWritable) :
    ofJson? b.toJson = some b := by
  obtain ⟨field, hobject, hfield⟩ := exists_field (toJson.eq_def b) (by simp)
  have admitted : ObjectKind.clusterRoleBinding.admits field = true := by
    rw [ObjectKind.admits,
      hfield (v := some (.string ObjectKind.clusterRoleBinding.apiVersion)) (by simp),
      hfield (v := some (.string ObjectKind.clusterRoleBinding.name)) (by simp)]
    decide
  have metadata : Json.lastOr? {} ObjectMeta.ofJson? (field "metadata") = some b.metadata := by
    rw [hfield (v := (some b.metadata).map ObjectMeta.toJson) (by simp), Json.lastOr?,
      last?_toList (fun _ => rfl) fun m hm => Option.some.inj hm ▸ ObjectMeta.ofJson?_toJson h]
    rfl
  have role : Json.lastOr? {} RoleRef.ofJson? (field "roleRef") = some b.roleRef := by
    rw [hfield (v := some b.roleRef.toJson) (by simp)]
    exact b.roleRef.ofJson?_toJson
  have subjects : last? (Json.list? Subject.ofJson?) (field "subjects") = some b.subjects := by
    rw [hfield (v := b.subjects.map fun l => .array (l.map Subject.toJson)) (by simp)]
    exact last?_toList (fun _ => rfl) fun l _ => list?_map fun s _ => s.ofJson?_toJson
  simp only [ofJson?, hobject, Option.bind_eq_bind, Option.bind_some, admitted, if_true, metadata,
    role, subjects]
  rfl

/-- The type of a workspace survives, with or without a path. -/
theorem WorkspaceType.ofJson?_toJson (t : WorkspaceType) : ofJson? t.toJson = some t := by
  obtain ⟨_, path⟩ := t
  cases path <;> rfl

/-- What is asked of a workspace survives, whichever fields are absent. -/
theorem WorkspaceSpec.ofJson?_toJson (s : WorkspaceSpec) : ofJson? s.toJson = some s := by
  obtain ⟨field, hrecord, hfield⟩ :=
    exists_record ["type", "URL", "cluster"] 3 (toJson.eq_def s) (by simp) (by simp)
  have text : ∀ (name : String) (x : Option String), field name = x.map Json.string →
      optional? Json.string? (field name) = some x :=
    fun _ _ h => h ▸ optional?_map (fun _ => rfl) fun _ _ => rfl
  have type : optional? WorkspaceType.ofJson? (field "type") = some s.type := by
    rw [hfield (v := s.type.map WorkspaceType.toJson) (by simp)]
    exact optional?_map (fun _ => rfl) fun t _ => t.ofJson?_toJson
  have url := text "URL" s.url (hfield (by simp))
  have cluster := text "cluster" s.cluster (hfield (by simp))
  simp only [ofJson?, hrecord, Option.bind_eq_bind, Option.bind_some, type, url, cluster]
  rfl

/-- What is reported about a workspace survives, also where no phase is reported. -/
theorem WorkspaceStatus.ofJson?_toJson (s : WorkspaceStatus) : ofJson? s.toJson = some s := by
  obtain ⟨phase⟩ := s
  cases phase <;> rfl

/-- All of a workspace survives but for what becomes of its metadata. -/
theorem Workspace.ofJson?_toJson_eq (ws : Workspace) :
    ofJson? ws.toJson =
      (ObjectMeta.ofJson? ws.metadata.toJson).map fun metadata => { ws with metadata } := by
  obtain ⟨field, hrecord, hfield⟩ :=
    exists_record ["metadata", "spec", "status"] 3 (toJson.eq_def ws) (by simp) (by simp)
  have metadata : field "metadata" = some ws.metadata.toJson := hfield (by simp)
  have spec : Json.required? WorkspaceSpec.ofJson? (field "spec") = some ws.spec := by
    rw [hfield (v := some ws.spec.toJson) (by simp)]
    exact ws.spec.ofJson?_toJson
  have status : optional? WorkspaceStatus.ofJson? (field "status") = some ws.status := by
    rw [hfield (v := ws.status.map WorkspaceStatus.toJson) (by simp)]
    exact optional?_map (fun _ => rfl) fun s _ => s.ofJson?_toJson
  simp only [ofJson?, hrecord, Option.bind_eq_bind, Option.bind_some, metadata, spec, status]
  rw [Json.required?]
  cases ObjectMeta.ofJson? ws.metadata.toJson <;> rfl

/-- A workspace survives when its metadata can be written down. -/
theorem Workspace.ofJson?_toJson {ws : Workspace} (h : ws.metadata.IsWritable) :
    ofJson? ws.toJson = some ws := by
  rw [ofJson?_toJson_eq, ObjectMeta.ofJson?_toJson h]
  rfl

/-- What is known of a project survives, the absent fields as `null`. -/
theorem ProjectSpec.ofJson?_toJson (s : ProjectSpec) : ofJson? s.toJson = some s := by
  obtain ⟨field, hrecord, hfield⟩ :=
    exists_full_record ["displayName", "maturity", "repositories"] 2 (toJson.eq_def s) (by simp)
      (by simp)
  have repositories : Json.orDefault? [] (Json.list? Json.string?) (field "repositories") =
      some s.repositories := by
    rw [hfield (v := .ofStrings s.repositories) (by simp)]
    exact list?_map fun _ _ => rfl
  have displayName : field "displayName" = some (.ofOption s.displayName) := hfield (by simp)
  have maturity : field "maturity" = some (.ofOption s.maturity) := hfield (by simp)
  simp only [ofJson?, hrecord, Option.bind_eq_bind, Option.bind_some, displayName, maturity,
    optional?_ofOption, repositories]
  rfl

/-- All of a project survives but for what becomes of its metadata. -/
theorem Project.ofJson?_toJson_eq (p : Project) :
    ofJson? p.toJson =
      (ObjectMeta.ofJson? p.metadata.toJson).map fun metadata => { p with metadata } := by
  obtain ⟨field, hrecord, hfield⟩ :=
    exists_full_record ["metadata", "spec"] 2 (toJson.eq_def p) (by simp) (by simp)
  have metadata : field "metadata" = some p.metadata.toJson := hfield (by simp)
  have spec : field "spec" = some p.spec.toJson := hfield (by simp)
  simp only [ofJson?, hrecord, Option.bind_eq_bind, Option.bind_some, metadata, spec,
    Json.required?, ProjectSpec.ofJson?_toJson]
  cases ObjectMeta.ofJson? p.metadata.toJson <;> rfl

/-- What is known of a staff member survives, the absent fields as `null`. -/
theorem StaffMemberSpec.ofJson?_toJson (s : StaffMemberSpec) : ofJson? s.toJson = some s := by
  obtain ⟨field, hrecord, hfield⟩ :=
    exists_full_record ["displayName", "primaryEmail", "githubAccount"] 3 (toJson.eq_def s)
      (by simp) (by simp)
  have primaryEmail : Json.orDefault? "" Json.string? (field "primaryEmail") =
      some s.primaryEmail := by
    rw [hfield (v := .string s.primaryEmail) (by simp)]
    rfl
  have displayName : field "displayName" = some (.ofOption s.displayName) := hfield (by simp)
  have githubAccount : field "githubAccount" = some (.ofOption s.githubAccount) :=
    hfield (by simp)
  simp only [ofJson?, hrecord, Option.bind_eq_bind, Option.bind_some, displayName, githubAccount,
    optional?_ofOption, primaryEmail]
  rfl

/-- All of a staff member survives but for what becomes of the metadata. -/
theorem StaffMember.ofJson?_toJson_eq (m : StaffMember) :
    ofJson? m.toJson =
      (ObjectMeta.ofJson? m.metadata.toJson).map fun metadata => { m with metadata } := by
  obtain ⟨field, hrecord, hfield⟩ :=
    exists_full_record ["metadata", "spec"] 2 (toJson.eq_def m) (by simp) (by simp)
  have metadata : field "metadata" = some m.metadata.toJson := hfield (by simp)
  have spec : field "spec" = some m.spec.toJson := hfield (by simp)
  simp only [ofJson?, hrecord, Option.bind_eq_bind, Option.bind_some, metadata, spec,
    Json.required?, StaffMemberSpec.ofJson?_toJson]
  cases ObjectMeta.ofJson? m.metadata.toJson <;> rfl

/-! ### Objects without numbers -/

open Json (IsWorded isWorded_objectOf isWorded_array_map isWorded_ofStringMap)

/-- The owner of an object has no numbers in it. -/
theorem OwnerReference.isWorded_toJson {n : Nat} (r : OwnerReference) :
    IsWorded (n + 1) r.toJson := by
  obtain ⟨_, block, controller, _, _, _⟩ := r
  refine isWorded_objectOf ?_
  cases block <;> cases controller <;> simp

/-- Metadata have no numbers in them but the grace period, the generation and what managed fields
hold. -/
theorem ObjectMeta.isWorded_toJson {n : Nat} {m : ObjectMeta}
    (hgrace : m.deletionGracePeriodSeconds = none) (hgeneration : m.generation = none)
    (hmanaged : m.managedFields = none) : IsWorded (n + 3) m.toJson := by
  have htexts (l : List String) : IsWorded (n + 2) (Json.ofStrings l) :=
    isWorded_array_map (fun s => .string s) l
  have htime (t : Timestamp) : IsWorded (n + 2) t.toJson := .string _
  refine isWorded_objectOf ?_
  simp [hgrace, hgeneration, hmanaged, htexts, htime, isWorded_ofStringMap,
    isWorded_array_map OwnerReference.isWorded_toJson]

/-- A role has no numbers in it, so its text reads back exactly. -/
theorem RoleRef.isWorded_toJson {n : Nat} (r : RoleRef) : IsWorded (n + 1) r.toJson := by
  refine .object ?_
  simp

/-- A subject has no numbers in it, so its text reads back exactly. -/
theorem Subject.isWorded_toJson {n : Nat} (s : Subject) : IsWorded (n + 1) s.toJson := by
  refine isWorded_objectOf ?_
  simp

/-- A binding has no numbers in it when its metadata have none. -/
theorem ClusterRoleBinding.isWorded_toJson {n : Nat} {b : ClusterRoleBinding}
    (h : IsWorded (n + 3) b.metadata.toJson) : IsWorded (n + 4) b.toJson := by
  refine isWorded_objectOf ?_
  simp [h, RoleRef.isWorded_toJson, isWorded_array_map Subject.isWorded_toJson]

/-- A workspace has no numbers in it when its metadata have none. -/
theorem Workspace.isWorded_toJson {n : Nat} {ws : Workspace}
    (h : IsWorded (n + 3) ws.metadata.toJson) : IsWorded (n + 4) ws.toJson := by
  have htype (t : WorkspaceType) : IsWorded (n + 2) t.toJson := isWorded_objectOf (by simp)
  have hspec : IsWorded (n + 3) ws.spec.toJson := isWorded_objectOf (by simp [htype])
  have hstatus (s : WorkspaceStatus) : IsWorded (n + 3) s.toJson := by
    refine .object ?_
    cases s.phase <;> simp [Json.ofOption]
  refine isWorded_objectOf ?_
  simp [h, hspec, hstatus]

/-- A value without numbers is understood when it is the content of a reply. -/
theorem Reply.decode_ofJson {α : Type} {decode : Json → Option α} {a : α} {n code : Nat} {j : Json}
    (hworded : IsWorded n j) (hdepth : n ≤ Json.Reader.depthLimit)
    (hsuccess : (Reply.ofJson code j).isFailure = false) (hdecode : decode j = some a) :
    (Reply.ofJson code j).decode decode = .ok a := by
  have hparse : Json.parse? (Reply.ofJson code j).text = some j :=
    Json.parse?_compact hworded hdepth
  rw [Reply.decode, hsuccess, if_neg Bool.false_ne_true, hparse, Option.bind_some, hdecode]

end WorkspaceAccess
