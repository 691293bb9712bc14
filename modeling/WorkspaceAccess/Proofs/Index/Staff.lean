import Mathlib.Data.List.Forall2
import WorkspaceAccess.Index.Staff
import WorkspaceAccess.Proofs.Index.Identity

/-!
# What the Staff Index Asks For

A sweep writes its outcome on the staff member who triggered it, and that write comes back to the
index as a change of the member. If the index asked for a sweep on every change, one sweep would
cause the next for ever. So it asks for a sweep for every member that is removed, and for every
member that is applied, unless it was applied before, was not removed since, and is the same as it
was then but for the annotations by which a sweep records its outcome
(`StaffMember.SameButRecord`).

As for projects, this is stated as a law that looks at all events before, newest first
(`StaffIndex.asks`, by way of `StaffIndex.lastApplied?`). Which member an event is about is said by
the namespace and the name that the member carries. The law compares whole members; the index keeps
a fingerprint of each. That two members have the same fingerprint just when they are the same but
for a record is where the two meet (`StaffMember.fingerprint_eq_iff`), and an index *knows* the past
when it has the fingerprint of each member as it was applied last (`StaffIndex.Knows`).

## Main results

* `fingerprint_eq_iff`: what a fingerprint forgets of a member is exactly the record of a sweep.
* `Knows.handle_cases`: an index that knows the past handles an event by the law and knows it from
  then on, or the event is about a member that cannot be identified.
* `Knows.asksInOrder`: the same for any number of events, by the induction of `handleAll_by_law`.
* `handleAll_congr`: events that are the same but for records are handled the same, whatever the
  index knows.
* `staff_events_ask_by_what_changed`: what an index asks for from the start on is what the law says,
  and is the same for events that are the same but for records.
* `a_record_asks_for_nothing`: a member who is added, swept for, removed and added again.
-/

namespace WorkspaceAccess

/-! ### Members that are the same but for a record -/

/-- Without the record of a sweep the other annotations are the same. -/
theorem Annotations.get?_withoutSync (a : Annotations) (k : String) :
    (withoutSync a).get? k = if k ∈ syncKeys then none else a.get? k := by
  rw [withoutSync, SortedMap.get?_filter]
  by_cases hk : k ∈ syncKeys <;> cases a.get? k <;> simp [Option.filter, hk]

/-- Annotations are the same without the record of a sweep just when all others are the same. -/
theorem Annotations.withoutSync_eq_iff {a b : Annotations} :
    withoutSync a = withoutSync b ↔ ∀ k, k ∉ syncKeys → a.get? k = b.get? k := by
  constructor
  · intro h k hk
    have hget := congrArg (SortedMap.get? · k) h
    simpa only [get?_withoutSync, if_neg hk] using hget
  · intro h
    apply SortedMap.ext
    intro k
    rw [get?_withoutSync, get?_withoutSync]
    split
    · rfl
    · exact h k ‹_›

namespace StaffMember

/-- Nothing that counts has changed: the generation, the specification and all annotations but the
record of a sweep are the same. -/
structure SameButRecord (old new : StaffMember) : Prop where
  /-- The generation is the same. -/
  generation : new.metadata.generation = old.metadata.generation
  /-- The specification is the same, the email included. -/
  spec : new.spec = old.spec
  /-- The annotations are the same, those of the record apart. -/
  annotations : ∀ k, k ∉ Annotations.syncKeys → new.annotations.get? k = old.annotations.get? k

/-- Members have the same fingerprint just when they are the same but for a record. -/
theorem fingerprint_eq_iff {old new : StaffMember} :
    new.fingerprint = old.fingerprint ↔ old.SameButRecord new := by
  rw [fingerprint, fingerprint, Fingerprint.mk.injEq, Annotations.withoutSync_eq_iff]
  exact ⟨fun ⟨hgeneration, hspec, hannotations⟩ => ⟨hgeneration, hspec, hannotations⟩,
    fun h => ⟨h.generation, h.spec, h.annotations⟩⟩

instance (old new : StaffMember) : Decidable (old.SameButRecord new) :=
  decidable_of_iff _ fingerprint_eq_iff

/-- Records that are made one after the other are records. -/
theorem SameButRecord.trans {a b c : StaffMember} (hab : a.SameButRecord b)
    (hbc : b.SameButRecord c) : a.SameButRecord c :=
  fingerprint_eq_iff.mp ((fingerprint_eq_iff.mpr hbc).trans (fingerprint_eq_iff.mpr hab))

end StaffMember

namespace WatchEvent

/-- The object of the event can be told from others: it has a namespace and a name. -/
def isIdentified (event : WatchEvent StaffMember) : Bool :=
  (event.about? StaffMember.metadata).isSome

/-- Two events are the same but for the record of a sweep on the object. -/
inductive SameButRecord : WatchEvent StaffMember → WatchEvent StaffMember → Prop
  /-- The same object was removed. -/
  | deleted (id : ResourceId) : SameButRecord (deleted id) (deleted id)
  /-- The same object was applied, but for the record. -/
  | applied {old new : StaffMember}
      (hid : new.metadata.identify .staffMember = old.metadata.identify .staffMember)
      (hsame : old.SameButRecord new) : SameButRecord (applied old) (applied new)

end WatchEvent

namespace StaffIndex

/-! ### The law -/

/-- The member as it was applied last, if it was not removed since. Of the events the newest is the
first. -/
def lastApplied? (id : ResourceId) : List (WatchEvent StaffMember) → Option StaffMember
  | [] => none
  | .deleted other :: past => if other = id then none else lastApplied? id past
  | .applied member :: past =>
    if member.metadata.id? = some id then some member else lastApplied? id past

/-- What an event asks for by the law, after the events before it. -/
def asks (past : List (WatchEvent StaffMember)) : WatchEvent StaffMember → List Trigger
  | .deleted id => [.staffMember id]
  | .applied member =>
    match member.metadata.id? with
    | none => []
    | some id =>
      match lastApplied? id past with
      | none => [.staffMember id]
      | some old => if old.SameButRecord member then [] else [.staffMember id]

/-- What each event asks for by the law, in order. -/
def asksInOrder :
    List (WatchEvent StaffMember) → List (WatchEvent StaffMember) → List (List Trigger)
  | _, [] => []
  | past, event :: rest => asks past event :: asksInOrder (event :: past) rest

/-! ### What the index knows -/

/-- The index knows the fingerprints of the members that were applied last. -/
def Knows (index : StaffIndex) (past : List (WatchEvent StaffMember)) : Prop :=
  ∀ id, index.get? id = (lastApplied? id past).map StaffMember.fingerprint

variable {index : StaffIndex} {past : List (WatchEvent StaffMember)} {member : StaffMember}
  {id : ResourceId}

/-- An index that has seen nothing knows the empty past. -/
theorem knows_empty : empty.Knows [] := fun _ => rfl

/-- A member that carries a namespace and a name is handled as the one of these. -/
theorem handle_applied (hid : member.metadata.id? = some id) (index : StaffIndex) :
    handle index (.applied member) = .ok (index.apply id member) := by
  have hid : member.metadata.identify .staffMember = .ok id :=
    ObjectMeta.identify_eq_ok_iff_id?.mpr hid
  rw [handle, hid]
  rfl

/-- The member that is applied is the one that was applied last. -/
theorem lastApplied?_applied (hid : member.metadata.id? = some id)
    (past : List (WatchEvent StaffMember)) (j : ResourceId) :
    lastApplied? j (.applied member :: past) =
      if id = j then some member else lastApplied? j past := by
  rw [lastApplied?, hid]
  exact if_congr Option.some_inj rfl rfl

/-- A member that is applied is asked about by the law, and known from then on. -/
theorem Knows.apply (h : index.Knows past) (hid : member.metadata.id? = some id) :
    (index.apply id member).2 = asks past (.applied member) ∧
      (index.apply id member).1.Knows (.applied member :: past) := by
  have hsuppressed : index.get? id = some member.fingerprint ↔
      ∃ old, lastApplied? id past = some old ∧ old.SameButRecord member := by
    rw [h id, Option.map_eq_some_iff]
    simp only [eq_comm (b := member.fingerprint), StaffMember.fingerprint_eq_iff]
  rw [StaffIndex.apply, asks, hid]
  split
  · rename_i hknown
    obtain ⟨old, hold, hsame⟩ := hsuppressed.mp hknown
    refine ⟨by simp [hold, hsame], fun j => ?_⟩
    rw [lastApplied?_applied hid]
    split
    · rename_i hj
      rw [← hj, hknown]
      rfl
    · exact h j
  · rename_i hnew
    constructor
    · cases hlast : lastApplied? id past with
      | none => simp [hlast]
      | some old =>
        have hchanged : ¬old.SameButRecord member :=
          fun hsame => hnew (hsuppressed.mpr ⟨old, hlast, hsame⟩)
        simp [hlast, hchanged]
    · intro j
      rw [lastApplied?_applied hid]
      split
      · rename_i hj
        rw [← hj]
        exact SortedMap.get?_insert_self _ _ _
      · rename_i hj
        rw [← h j]
        exact SortedMap.get?_insert_of_ne fun hsame => hj hsame.symm

/-- A member that is removed is asked about, and not known from then on. -/
theorem Knows.delete (h : index.Knows past) (id : ResourceId) :
    (index.delete id).1.Knows (.deleted id :: past) := by
  intro j
  rw [lastApplied?]
  split
  · rename_i hj
    rw [← hj]
    exact SortedMap.get?_erase_self _ _
  · rename_i hj
    rw [← h j]
    exact SortedMap.get?_erase_of_ne fun hsame => hj hsame.symm

/-- An event whose object can be identified is handled by the law, and any other one is not handled
at all. -/
theorem Knows.handle_cases (h : index.Knows past) (event : WatchEvent StaffMember) :
    (event.isIdentified = true ∧ ∃ later, handle index event = .ok (later, asks past event) ∧
        later.Knows (event :: past)) ∨
      event.isIdentified = false ∧ ∃ e, handle index event = .error e := by
  cases event with
  | deleted id => exact .inl ⟨rfl, _, rfl, h.delete id⟩
  | applied member =>
    rw [WatchEvent.isIdentified, WatchEvent.about?]
    cases hcarried : member.metadata.id? with
    | some id =>
      obtain ⟨hasks, hknows⟩ := h.apply hcarried
      exact .inl ⟨rfl, _, by rw [handle_applied hcarried, ← hasks], hknows⟩
    | none =>
      obtain ⟨e, hid⟩ := ObjectMeta.exists_identify_eq_error hcarried .staffMember
      refine .inr ⟨rfl, e, ?_⟩
      rw [handle, hid]
      rfl

/-- Events are handled by the law, until one of them is about an object that cannot be
identified. -/
theorem Knows.asksInOrder (h : index.Knows past) (events : List (WatchEvent StaffMember)) :
    (handleAll handle index events).2.1 =
      StaffIndex.asksInOrder past (events.takeWhile WatchEvent.isIdentified) :=
  (handleAll_by_law (fun _ => rfl) (fun _ _ _ => rfl) handle_cases h events).1

/-- Events that are the same but for the record of a sweep are handled the same. -/
theorem handle_congr {event other : WatchEvent StaffMember} (h : event.SameButRecord other)
    (index : StaffIndex) : handle index other = handle index event := by
  cases h with
  | deleted => rfl
  | applied hid hsame =>
    rw [handle, handle, hid]
    refine bind_congr fun id => ?_
    rw [StaffIndex.apply, StaffIndex.apply, StaffMember.fingerprint_eq_iff.mpr hsame]

/-- So are any number of them, one after the other. -/
theorem handleAll_congr {events others : List (WatchEvent StaffMember)}
    (h : List.Forall₂ WatchEvent.SameButRecord events others) (index : StaffIndex) :
    handleAll handle index others = handleAll handle index events := by
  induction h generalizing index with
  | nil => rfl
  | cons hevent _ ih =>
    rw [handleAll, handleAll, handle_congr hevent]
    split
    · rfl
    · rw [ih]

/-- What the index asks for is just what the law says: a sweep for every member that is removed, and
for every member that is applied and was not applied before, or was removed since, or has changed
since in more than the record of a sweep. So events that are the same but for such records ask for
the same. -/
theorem staff_events_ask_by_what_changed (events : List (WatchEvent StaffMember)) :
    (handleAll handle empty events).2.1 =
        asksInOrder [] (events.takeWhile WatchEvent.isIdentified) ∧
      ∀ others, List.Forall₂ WatchEvent.SameButRecord events others →
        (handleAll handle empty others).2 = (handleAll handle empty events).2 :=
  ⟨knows_empty.asksInOrder events, fun _ h => congrArg Prod.snd (handleAll_congr h empty)⟩

/-! ### A member whose sweep is recorded -/

/-- A new member, of whom no sweep has been recorded yet. -/
def ann : StaffMember where
  metadata := { name := some "ann", ns := some "maintainerd", generation := some 1 }
  spec := { primaryEmail := "ann@x.io" }

/-- The member after a sweep was recorded on it, with three annotations more. -/
def annRecorded : StaffMember :=
  ann.annotate (.ofList [(Annotations.syncStatus, "success"), (Annotations.workspaceCount, "4")])

/-- The member is added, the record of a sweep is seen, and the member is removed and added
again. -/
def recordedEvents : List (WatchEvent StaffMember) :=
  [.applied ann, .applied annRecorded, .deleted ⟨"maintainerd", "ann"⟩, .applied annRecorded]

/-- The same events without any record of a sweep in them. -/
def unrecordedEvents : List (WatchEvent StaffMember) :=
  [.applied ann, .applied ann, .deleted ⟨"maintainerd", "ann"⟩, .applied ann]

/-- The record asks for nothing: the events with the records of sweeps and those without them ask
for the same sweeps, at the same places. -/
theorem a_record_asks_for_nothing :
    List.Forall₂ WatchEvent.SameButRecord recordedEvents unrecordedEvents ∧
      (handleAll handle empty recordedEvents).2.1 =
        [[.staffMember ⟨"maintainerd", "ann"⟩], [], [.staffMember ⟨"maintainerd", "ann"⟩],
          [.staffMember ⟨"maintainerd", "ann"⟩]] ∧
      (handleAll handle empty unrecordedEvents).2 = (handleAll handle empty recordedEvents).2 := by
  have hsame : annRecorded.SameButRecord ann := by decide
  have hevents : List.Forall₂ WatchEvent.SameButRecord recordedEvents unrecordedEvents :=
    .cons (.applied rfl ⟨rfl, rfl, fun _ _ => rfl⟩) (.cons (.applied rfl hsame)
      (.cons (.deleted _) (.cons (.applied rfl hsame) .nil)))
  obtain ⟨hlaw, hcongr⟩ := staff_events_ask_by_what_changed recordedEvents
  exact ⟨hevents, hlaw.trans (by decide), hcongr unrecordedEvents hevents⟩

end StaffIndex

end WorkspaceAccess
