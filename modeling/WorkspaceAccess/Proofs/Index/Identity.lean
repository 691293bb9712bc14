import WorkspaceAccess.Index.Watch

/-!
# Which Object an Event Is About

The indexes tell the objects of a watch apart by their namespaces and names, and the laws of the
indexes speak of *the events of one object*. So that these laws do not rest on the function by which
the indexes identify objects, this module says for itself what identifies an object: the namespace
and the name that its metadata carry, both of which have to be there (`ObjectMeta.id?`). An event is
about the object that it applies, or about the one whose removal it reports (`WatchEvent.about?`).

An applied object without a namespace or without a name is about nothing that could be told from
other objects. The indexes stop at such an event, and the laws hold for the events before it.

## Main results

* `ObjectMeta.identify_eq_ok_iff`: an object is identified as the one of a namespace and a name just
  when these are the namespace and the name that it carries, whatever its kind is.
* `ObjectMeta.identify_eq_ok_iff_id?`: so the indexes and the laws mean the same object.
* `ObjectMeta.exists_identify_eq_error`: an object that does not carry both is not identified at
  all.
-/

namespace WorkspaceAccess

namespace ObjectMeta

/-- The namespace and the name that the metadata carry, if they carry both. -/
def id? (m : ObjectMeta) : Option ResourceId :=
  match m.ns, m.name with
  | some ns, some name => some ⟨ns, name⟩
  | _, _ => none

variable {m : ObjectMeta} {id : ResourceId}

/-- Metadata carry an identity just when its two parts are what they carry. -/
theorem id?_eq_some_iff : m.id? = some id ↔ m.ns = some id.ns ∧ m.name = some id.name := by
  rw [id?]
  split
  · rename_i ns name hns hname
    rw [hns, hname, Option.some.injEq, Option.some.injEq, Option.some.injEq]
    constructor
    · rintro rfl
      exact ⟨rfl, rfl⟩
    · rintro ⟨rfl, rfl⟩
      rfl
  · rename_i hnone
    constructor
    · intro h
      cases h
    · rintro ⟨hns, hname⟩
      exact absurd hname (hnone _ _ hns)

/-- An object is identified as the one of a namespace and a name just when it carries these. -/
theorem identify_eq_ok_iff {kind : ObjectKind} :
    m.identify kind = .ok id ↔ m.ns = some id.ns ∧ m.name = some id.name := by
  rw [identify]
  cases m.ns with
  | none => simp
  | some ns =>
    cases m.name with
    | none => simp
    | some name =>
      simp only [Except.ok.injEq, Option.some.injEq]
      constructor
      · rintro rfl
        exact ⟨rfl, rfl⟩
      · rintro ⟨rfl, rfl⟩
        rfl

/-- What the indexes identify an object as is what it carries. -/
theorem identify_eq_ok_iff_id? {kind : ObjectKind} : m.identify kind = .ok id ↔ m.id? = some id :=
  identify_eq_ok_iff.trans id?_eq_some_iff.symm

/-- An object that does not carry both a namespace and a name is not identified. -/
theorem exists_identify_eq_error (h : m.id? = none) (kind : ObjectKind) :
    ∃ e, m.identify kind = .error e := by
  cases hid : m.identify kind with
  | error e => exact ⟨e, rfl⟩
  | ok id =>
    rw [identify_eq_ok_iff_id?, h] at hid
    cases hid

end ObjectMeta

namespace WatchEvent

/-- The object that an event is about, where objects carry such metadata: an object that is applied
may lack an identity, and one that was removed is reported by it. -/
def about? {α : Type} (metadata : α → ObjectMeta) : WatchEvent α → Option ResourceId
  | applied object => (metadata object).id?
  | deleted id => some id

end WatchEvent

end WorkspaceAccess
