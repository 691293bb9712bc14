import WorkspaceAccess.Proofs.Access.Accounting
import WorkspaceAccess.Proofs.Access.Overlap
import WorkspaceAccess.Proofs.Index.Staff
import WorkspaceAccess.Proofs.Workspace.Footprint

/-!
# No Sweep Is Missed, and None Is Caused by a Sweep

The index of the staff suppresses the changes of members that do not count. None of them counts for
the subjects of the roster, so that the subjects are the same at any two times between which nothing
was asked for. And what a sweep changes of the staff never counts: it records its outcome on the
member who triggered it, which is applied to the index once more, and asks for nothing. So neither
does any number of overlapping sweeps.

The first half is about the index and the past. The roster of the events holds the members as they
were applied last (`rosterOf`), and an event that asks for nothing either removes nobody and applies
a member who is the same but for a record, or is about no member at all. In both cases the emails
are the same, and the subjects depend on nothing else.

The second half is about sweeps. `OnlyRecords` relates two worlds: every member of the later one is
the same as in the earlier one but for a record. It is kept by every move of a sweep and is
transitive, so that it holds between the start and the end of any overlap in which others leave the
members alone.

## Main results

* `get?_rosterOf`: the roster of the events holds the members as they were applied last.
* `subjectsOf_cons`: an event that asks for nothing does not change the subjects.
* `Knows.ignores`: a member that is the same but for a record is not asked about.
* `IsRecord.sameButRecord`: the record of an outcome does not count.
* `Leg.Move.onlyRecords`, `recording_keeps`: a move changes nothing but a record, and so do sweeps.
* `suppression_is_safe_and_closed`: both halves, after any events.
* `ann_is_swept_for_once`: a member who is applied, swept for and applied again.
-/

namespace WorkspaceAccess

namespace StaffIndex

/-! ### The roster of the events -/

/-- The members that were applied and not removed since, as they were applied last. Of the events
the newest is the first. -/
def rosterOf : List (WatchEvent StaffMember) → SortedMap ResourceId StaffMember
  | [] => SortedMap.empty
  | .deleted id :: past => (rosterOf past).erase id
  | .applied member :: past =>
    match member.metadata.id? with
    | some id => (rosterOf past).insert id member
    | none => rosterOf past

/-- The subjects of the roster that the events so far leave behind. -/
def subjectsOf (past : List (WatchEvent StaffMember)) : List String :=
  Roster.subjects (rosterOf past).values

/-- The roster holds the members as they were applied last. -/
theorem get?_rosterOf (past : List (WatchEvent StaffMember)) (id : ResourceId) :
    (rosterOf past).get? id = lastApplied? id past := by
  induction past with
  | nil => rfl
  | cons event past ih =>
    cases event with
    | deleted other =>
      rw [rosterOf, lastApplied?, SortedMap.get?_erase, ih]
      exact if_congr (KeyOrder.compare_eq_iff.trans eq_comm) rfl rfl
    | applied member =>
      rw [rosterOf, lastApplied?]
      cases member.metadata.id? with
      | none => exact ih
      | some other =>
        simp only [Option.some.injEq]
        rw [SortedMap.get?_insert, ih]
        exact if_congr (KeyOrder.compare_eq_iff.trans eq_comm) rfl rfl

variable {index later : StaffIndex} {past : List (WatchEvent StaffMember)}

/-- An event that asks for nothing does not change the subjects. -/
theorem subjectsOf_cons {event : WatchEvent StaffMember} (h : asks past event = []) :
    subjectsOf (event :: past) = subjectsOf past := by
  cases event with
  | deleted id => cases h
  | applied member =>
    rw [asks] at h
    rw [subjectsOf, rosterOf]
    cases hid : member.metadata.id? with
    | none => rfl
    | some id =>
      rw [hid] at h
      cases hlast : lastApplied? id past with
      | none => simp [hlast] at h
      | some old =>
        -- The member takes the place of one with the same specification and so the same email.
        have hsame : old.SameButRecord member := by simpa [hlast] using h
        refine Roster.subjects_congr ?_
        rw [← SortedMap.values_map, ← SortedMap.values_map]
        refine congrArg SortedMap.values (SortedMap.map_insert_of_eq
          ((get?_rosterOf past id).trans hlast) ?_)
        rw [StaffMember.email, StaffMember.email, hsame.spec]

/-- Events that ask for nothing do not change the subjects, and the index goes on by the law. -/
theorem Knows.goesOn (h : index.Knows past) {events : List (WatchEvent StaffMember)}
    {asked : List (List Trigger)} (hhandle : handleAll handle index events = (later, asked, none)) :
    later.Knows (events.reverse ++ past) ∧
      ((∀ triggers ∈ asked, triggers = []) →
        subjectsOf (events.reverse ++ past) = subjectsOf past) := by
  induction events generalizing index past asked with
  | nil =>
    cases hhandle
    exact ⟨h, fun _ => rfl⟩
  | cons event rest ih =>
    rw [handleAll] at hhandle
    rcases h.handle_cases event with ⟨-, between, hevent, hknows⟩ | ⟨-, e, hevent⟩
    · rcases hrest : handleAll handle between rest with ⟨last, asks, error⟩
      rw [hevent] at hhandle
      simp only [hrest] at hhandle
      cases hhandle
      obtain ⟨hlater, hsubjects⟩ := ih hknows hrest
      rw [List.reverse_cons, List.append_assoc, List.singleton_append]
      refine ⟨hlater, fun hsilent => ?_⟩
      obtain ⟨hfirst, hothers⟩ := List.forall_mem_cons.mp hsilent
      exact (hsubjects hothers).trans (subjectsOf_cons hfirst)
    · rw [hevent] at hhandle
      cases hhandle

/-- A member that is the same as it was applied last but for a record is not asked about. -/
theorem Knows.ignores (h : index.Knows past) {id : ResourceId} {old member : StaffMember}
    (hold : lastApplied? id past = some old) (hsame : old.SameButRecord member)
    (hid : member.metadata.id? = some id) :
    handle index (.applied member) = .ok (index, []) := by
  rw [handle_applied hid, StaffIndex.apply, h id, hold, Option.map_some,
    StaffMember.fingerprint_eq_iff.mpr hsame, if_pos rfl]

end StaffIndex

namespace Sweep

/-! ### What sweeps change of the staff -/

/-- The record of an outcome does not count: the member that carries it is the same but for the
record. -/
theorem IsRecord.sameButRecord {o : Outcome} {now : Timestamp} {old new : StaffMember}
    (h : IsRecord o now old new) : old.SameButRecord new := by
  obtain ⟨hrest, hothers, -⟩ := h
  exact ⟨congrArg (·.metadata.generation) hrest, congrArg (·.spec) hrest, hothers⟩

section

variable {wall : Instant → Timestamp} {trigger : Trigger} {deadline now : Instant}
  {world later : World} {leg next : Leg Unit} {deed : Deed Unit}

/-- A move records an outcome on a member, or leaves the staff alone. -/
theorem Leg.Move.staff_cases
    (h : Leg.Move (World.host wall) trigger deadline now world leg deed next later) :
    later.staff = world.staff ∨ ∃ id o t, later.staff =
      (world.staff.patch StaffMember.annotate id (statusAnnotations o t)).2 := by
  cases h with
  | connect h | connectFails h | list h | listFails h | read h | readFails h | write h
  | writeFails h =>
    obtain ⟨-, rfl⟩ := Prod.mk.inj h
    exact .inl rfl
  | giveUpConnect | giveUpList | giveUpRead | abandon | choose | giveUpWrite | report | time =>
    exact .inl rfl
  | record h | recordFails h =>
    obtain ⟨-, rfl⟩ := Prod.mk.inj h
    exact .inr ⟨_, _, _, rfl⟩

/-- Of the members nothing was changed but the record of a sweep. -/
def OnlyRecords (old new : World) : Prop :=
  ∀ id member, new.staff.objects.get? id = some member →
    ∃ before, old.staff.objects.get? id = some before ∧ before.SameButRecord member

/-- Members that are the same are the same but for records. -/
theorem OnlyRecords.of_eq {old new : World} (h : new.staff.objects = old.staff.objects) :
    OnlyRecords old new :=
  fun _ member hmember => ⟨member, h ▸ hmember, rfl, rfl, fun _ _ => rfl⟩

/-- Records that are made one after the other are records. -/
theorem OnlyRecords.trans {a b c : World} (hab : OnlyRecords a b) (hbc : OnlyRecords b c) :
    OnlyRecords a c := by
  intro id member hmember
  obtain ⟨between, hbetween, hrecord⟩ := hbc id member hmember
  obtain ⟨before, hbefore, hsame⟩ := hab id between hbetween
  exact ⟨before, hbefore, hsame.trans hrecord⟩

/-- A move of a sweep changes nothing of the staff but a record. One case for each kind of move. -/
theorem Leg.Move.onlyRecords
    (h : Leg.Move (World.host wall) trigger deadline now world leg deed next later) :
    OnlyRecords world later := by
  rcases h.staff_cases with hsame | ⟨recorded, o, t, hpatched⟩
  · exact .of_eq (congrArg (·.objects) hsame)
  · intro id member hmember
    rw [hpatched] at hmember
    rcases Store.get?_of_patch hmember with hold | ⟨rfl, old, hold, rfl⟩
    · exact ⟨member, hold, rfl, rfl, fun _ _ => rfl⟩
    · exact ⟨old, hold, (isRecord_annotate o t old).sameButRecord⟩

end

/-- Sweeps for any triggers and with any deadlines, while others leave the members alone. -/
def recording (wall : Instant → Timestamp) :
    Interplay.Cast Unit Unit World (Except Failure Action) where
  host := World.host wall
  MayStart a := ∃ trigger deadline, a = reconcile trigger deadline
  MayChange _ old new := new.staff.objects = old.staff.objects

/-- Sweeps change nothing but records, however many of them overlap and in whatever order they take
their turns. -/
theorem recording_keeps (wall : Instant → Timestamp) (world : World) :
    (recording wall).Keeps (OnlyRecords world)
      fun a => ∃ trigger deadline, ∃ leg : Leg Unit, a = leg.rest trigger deadline where
  start := by
    rintro _ ⟨trigger, deadline, rfl⟩
    exact ⟨trigger, deadline, .connecting, rfl⟩
  turn := by
    rintro _ b deed between later now inTime ⟨trigger, deadline, leg, rfl⟩ hrecords hturn
    obtain ⟨next, rfl, hmove⟩ := Leg.move_of_turn hturn
    exact ⟨⟨trigger, deadline, next, rfl⟩, hrecords.trans hmove.onlyRecords⟩
  change hrecords hsame := hrecords.trans (.of_eq hsame)

end Sweep

namespace StaffIndex

/-- After any events the index is safe and closed. An event that changes the subjects of the roster
asks for a sweep, and at two times between which nothing was asked for the subjects are the same. A
member on which an outcome was recorded since it was applied last, or that has been through any
number of sweeps since, asks for nothing when it is applied. -/
theorem suppression_is_safe_and_closed {events : List (WatchEvent StaffMember)}
    {index : StaffIndex} {asked : List (List Trigger)}
    (h : handleAll handle empty events = (index, asked, none)) :
    (∀ event later triggers, handle index event = .ok (later, triggers) →
      subjectsOf (event :: events.reverse) ≠ subjectsOf events.reverse → triggers ≠ []) ∧
    (∀ more later others, handleAll handle index more = (later, others, none) →
      (∀ triggers ∈ others, triggers = []) →
      subjectsOf (events ++ more).reverse = subjectsOf events.reverse) ∧
    (∀ id old member o t, lastApplied? id events.reverse = some old →
      old.SameButRecord member → member.metadata.id? = some id →
      handle index (.applied (member.annotate (Sweep.statusAnnotations o t))) =
        .ok (index, [])) ∧
    ∀ wall world s, Interplay.Reachable (Sweep.recording wall) world s →
      ∀ id old stored member, lastApplied? id events.reverse = some old →
        world.staff.objects.get? id = some stored → old.SameButRecord stored →
        s.world.staff.objects.get? id = some member →
        member.metadata.id? = some id →
        handle index (.applied member) = .ok (index, []) := by
  have hknows : index.Knows events.reverse := by
    obtain ⟨hknows, -⟩ := knows_empty.goesOn h
    rwa [List.append_nil] at hknows
  refine ⟨?_, ?_, ?_, ?_⟩
  · rintro event later triggers hhandle hchanged rfl
    rcases hknows.handle_cases event with ⟨-, _, hevent, -⟩ | ⟨-, e, hevent⟩
    · rw [hhandle] at hevent
      obtain ⟨-, hasks⟩ := Prod.mk.inj (Except.ok.inj hevent)
      exact hchanged (subjectsOf_cons hasks.symm)
    · rw [hhandle] at hevent
      cases hevent
  · intro more later others hhandle hsilent
    rw [List.reverse_append]
    exact (hknows.goesOn hhandle).2 hsilent
  · intro id old member o t hold hsame hid
    exact hknows.ignores hold (hsame.trans (Sweep.isRecord_annotate o t member).sameButRecord) hid
  · intro wall world s hreachable id old stored member hold hstored hsame hmember hid
    obtain ⟨hrecords, -⟩ := hreachable.keeps (Sweep.recording_keeps wall world) (.of_eq rfl)
    obtain ⟨before, hbefore, hrecord⟩ := hrecords id member hmember
    obtain rfl : stored = before := Option.some.inj (hstored.symm.trans hbefore)
    exact hknows.ignores hold (hsame.trans hrecord) hid

/-! ### A member who was swept for -/

/-- The index that knows the member, having handled one event about it. -/
def knowingAnn : StaffIndex := (handleAll handle empty [.applied ann]).1

/-- The world with the member in it, and with nothing else to do for a sweep. -/
def staffedWithAnn : World where
  remote := { sourceNamespace := "maintainerd" }
  staff := { objects := .ofList [(⟨"maintainerd", "ann"⟩, ann)] }

/-- A sweep for the member has been made to its end, so that its outcome is recorded. -/
def sweptForAnn : Interplay Unit Unit World (Except Sweep.Failure Action) :=
  Interplay.run (World.host fun _ => .epoch) 0 0 6
    (Interplay.start { world := staffedWithAnn }
      (Sweep.reconcile (.staffMember ⟨"maintainerd", "ann"⟩) 1000))

/-- The removal of the member asks for a sweep, and the record of the sweep for nothing. -/
theorem ann_is_swept_for_once :
    handleAll handle empty [.applied ann] =
        (knowingAnn, [[.staffMember ⟨"maintainerd", "ann"⟩]], none) ∧
      (∀ later triggers,
        handle knowingAnn (.deleted ⟨"maintainerd", "ann"⟩) = .ok (later, triggers) →
        triggers ≠ []) ∧
      subjectsOf [.applied annRecorded, .applied ann] = subjectsOf [.applied ann] ∧
      handle knowingAnn (.applied (ann.annotate (Sweep.statusAnnotations ⟨1, 4, []⟩ .epoch))) =
        .ok (knowingAnn, []) ∧
      ∃ member,
        sweptForAnn.world.staff.objects.get? ⟨"maintainerd", "ann"⟩ = some member ∧
        member.annotations.get? Annotations.syncStatus = some "success" ∧
        handle knowingAnn (.applied member) = .ok (knowingAnn, []) := by
  have hhandled : handleAll handle empty [.applied ann] =
      (knowingAnn, [[.staffMember ⟨"maintainerd", "ann"⟩]], none) := rfl
  obtain ⟨hasks, hsilent, hrecords, hsweeps⟩ := suppression_is_safe_and_closed hhandled
  have hinitial : Interplay.Reachable (Sweep.recording fun _ => .epoch) staffedWithAnn
      { world := staffedWithAnn } := .initial
  have hreachable : Interplay.Reachable (Sweep.recording fun _ => .epoch) staffedWithAnn
      sweptForAnn := (hinitial.next (.start _ ⟨_, _, rfl⟩)).run 0 0 6
  refine ⟨hhandled, ?_, ?_, ?_, _, rfl, by decide, ?_⟩
  · intro later triggers hhandle
    exact hasks _ later triggers hhandle (by decide)
  · exact hsilent [.applied annRecorded] knowingAnn [[]] rfl (by simp)
  · exact hrecords _ ann ann _ _ rfl ⟨rfl, rfl, fun _ _ => rfl⟩ rfl
  · exact hsweeps _ _ _ hreachable _ ann ann _ rfl rfl ⟨rfl, rfl, fun _ _ => rfl⟩ rfl rfl

end StaffIndex

end WorkspaceAccess
