import WorkspaceAccess.Proofs.Access.Overlap

/-!
# When Overlapping Sweeps Converge

A sweep reads the roster once and then writes the bindings from what it has read. Another sweep that
has read a newer roster may have written them in between, and then the older roster is what is left
in the binding. Whether the binding of a workspace has the subjects of the roster in the end is
decided by the sweep that wrote it last.

`Followed` is what is known at any time of a workspace that is followed through an overlap:
`Leg.Knows` for every sweep by its leg, and for the binding that it comes from the roster of the
sweep that wrote it last. A roster that was read since the last edit has the subjects of the roster
as it is, because the sweeps themselves only add annotations to members.

So there are two statements about the end of an overlap in which every sweep has ended well and one
was started since the last edit. That one has certainly written the binding from the roster as it
is. But it need not have written last, and a sweep that was slow may put back what it has read
before the edit. The last part of the module is such an overlap: one member is removed while a sweep
for the other one waits before its write, the removal triggers a sweep of its own, and this one ends
first.

## Main results

* `Leg.Move.knows`: what a sweep has done by its leg is kept by its moves.
* `Followed.start`, `Followed.edit`, `Followed.change`, `Followed.turn`: whatever happens, the
  workspace is followed.
* `Followed.converged_iff`: a binding that was written has the subjects of the roster just when its
  last writer has read a roster with these subjects.
* `the_last_writer_decides`: when the binding of a workspace has the subjects of the roster in the
  end.
* `crossing_is_decided_by_the_first_sweep`, `overlapping_sweeps_may_diverge`: two sweeps after which
  it has not.
-/

namespace WorkspaceAccess

namespace Sweep

open OverlapLog

variable {w : String} {i j : Nat} {log : OverlapLog} {e : Occurrence Unit Outside}

/-! ### What a sweep has done by a leg -/

/-- A sweep has read the roster and written the binding of a workspace. -/
def HasServed (i : Nat) (w : String) (log : OverlapLog) : Prop :=
  (∃ members, rosterOf? i log = some members) ∧ Wrote i w log

/-- What a sweep has done by a leg for a workspace that it has to serve, unless it fails. -/
def Leg.Knows (w : String) (i : Nat) (log : OverlapLog) : Leg Unit → Prop
  | connecting | listing _ => rosterOf? i log = none
  | reading _ workspaces => rosterOf? i log = none ∧ w ∈ workspaces.map (·.name)
  | choosing basis left o => rosterOf? i log = some basis.members ∧
      (o.failures = [] → w ∈ left.map (·.name) ∨ Wrote i w log)
  | writing basis ws left o => rosterOf? i log = some basis.members ∧
      (o.failures = [] → w ∈ (ws :: left).map (·.name) ∨ Wrote i w log)
  | recording _ o | patching _ o _ => o.failures = [] → HasServed i w log
  | ended result => ∀ action, result = .ok action → HasServed i w log

/-- A sweep that has served a workspace still has when something else happens. -/
theorem HasServed.cons (h : HasServed i w log) (hread : rosterBy? i e = none) :
    HasServed i w (e :: log) := by
  obtain ⟨⟨members, hmembers⟩, hwrote⟩ := h
  exact ⟨⟨members, (rosterOf?_cons_of_none hread log).trans hmembers⟩, hwrote.cons e⟩

namespace Leg

variable {leg : Leg Unit}

/-- Whatever is not read by a sweep leaves what it has done as it is. -/
theorem Knows.cons (h : leg.Knows w i log) (hread : rosterBy? i e = none) :
    leg.Knows w i (e :: log) := by
  have hroster := rosterOf?_cons_of_none hread log
  cases leg with
  | connecting | listing => exact hroster.trans h
  | reading => exact ⟨hroster.trans h.1, h.2⟩
  | choosing | writing =>
    refine ⟨hroster.trans h.1, fun hnone => ?_⟩
    exact (h.2 hnone).imp_right fun hwrote => hwrote.cons e
  | recording | patching => exact fun hnone => (h hnone).cons hread
  | ended => exact fun action haction => (h action haction).cons hread

/-- An outcome with a failure does not lose it again. -/
theorem failures_fail_ne (o : Outcome) (ws : String) (failure : WorkspaceFailure) :
    (o.fail ws failure).failures ≠ [] := by
  simp [Outcome.fail]

/-- Only a sweep without any failure ends well, so one that ended well has written every binding. -/
theorem failures_of_conclude {o : Outcome} {action : Action} (h : conclude o = .ok action) :
    o.failures = [] := by
  rw [conclude] at h
  split at h
  · exact List.isEmpty_iff.mp ‹_›
  · cases h

/-- A workspace that can receive its binding is listed. -/
theorem mem_of_list {world : World} {workspaces : List WorkspaceInfo} (hw : Receives w world)
    (h : world.remote.listWorkspaces = .ok workspaces) : w ∈ workspaces.map (·.name) := by
  obtain ⟨ws, hget, hname, htarget⟩ := hw.target
  obtain rfl := InMemory.eq_targets_of_listWorkspaces h
  refine List.mem_map.mpr ⟨ws, List.mem_filter.mpr ⟨?_, htarget⟩, hname⟩
  exact List.mem_map_of_mem (f := (·.2)) (SortedMap.mem_entries_iff.mpr hget)

section

variable {wall : Instant → Timestamp} {trigger : Trigger} {deadline now : Instant}
  {world later : World} {next : Leg Unit} {deed : Deed Unit}

/-- What a sweep has done is kept by its moves. -/
theorem Move.knows (hw : Receives w world) (hknows : leg.Knows w i log)
    (h : Move (World.host wall) trigger deadline now world leg deed next later) :
    next.Knows w i (.did i deed :: log) := by
  have hself : rosterBy? i (.did i deed) = roster? deed := if_pos rfl
  cases h with
  | connect => exact (rosterOf?_cons_of_none hself log).trans hknows
  | list h =>
    exact ⟨(rosterOf?_cons_of_none hself log).trans hknows, mem_of_list hw (Prod.mk.inj h).1⟩
  | connectFails | listFails | readFails | giveUpConnect | giveUpList | giveUpRead
  | recordFails => exact nofun
  | read =>
    refine ⟨?_, fun _ => .inl hknows.2⟩
    rw [rosterOf?_cons, hself]
    rfl
  | abandon | giveUpWrite | writeFails =>
    refine ⟨(rosterOf?_cons_of_none hself log).trans hknows.1, fun hnone => ?_⟩
    exact absurd hnone (failures_fail_ne _ _ _)
  | choose =>
    refine ⟨(rosterOf?_cons_of_none hself log).trans hknows.1, fun hnone => ?_⟩
    exact (hknows.2 hnone).imp_right fun hwrote => hwrote.cons _
  | @write basis ws left o _ _ =>
    refine ⟨(rosterOf?_cons_of_none hself log).trans hknows.1, fun hnone => ?_⟩
    rcases hknows.2 hnone with hleft | hwrote
    · rcases List.mem_cons.mp hleft with rfl | hleft
      · exact .inr ⟨_, List.mem_cons_self, if_pos rfl⟩
      · exact .inl hleft
    · exact .inr (hwrote.cons _)
  | @report basis o =>
    have hserved : o.failures = [] → HasServed i w (.did i (.reported o.counts) :: log) := by
      intro hnone
      rcases hknows.2 hnone with hleft | hwrote
      · cases hleft
      · exact HasServed.cons ⟨⟨_, hknows.1⟩, hwrote⟩ hself
    cases trigger with
    | staffMember id => exact hserved
    | workspaces => exact fun action haction => hserved (failures_of_conclude haction)
  | time => exact fun hnone => (hknows hnone).cons hself
  | record =>
    exact fun action haction => (hknows (failures_of_conclude haction)).cons hself

end

end Leg

/-! ### What is known of a workspace that is followed -/

/-- What is known of an overlap in which a workspace is followed. -/
structure Followed (w : String) (s : Overlap) : Prop where
  /-- The workspace can receive its binding, at any time. -/
  receives : Receives w s.world
  /-- The sweeps are numbered in the order of their starts. -/
  started : ∀ i, .started i ∈ s.log → i < s.activities.length
  /-- A sweep that was not started has read nothing. -/
  unread : ∀ i, s.activities.length ≤ i → rosterOf? i s.log = none
  /-- Every sweep is at a leg, and has done what belongs to it. -/
  legs : ∀ (i : Nat) (a : Activity Unit (Except Failure Action)), s.activities[i]? = some a →
    ∃ trigger deadline leg, a = Leg.rest trigger deadline leg ∧ leg.Knows w i s.log
  /-- The binding has the subjects of the roster that its last writer has read. -/
  written : ∀ i, lastWriter? w s.log = some i → ∃ members b, rosterOf? i s.log = some members ∧
    s.world.remote.bindings.get? w = some b ∧ b.subjectNames = Roster.subjects members
  /-- A roster that was read since the last edit has the subjects of the roster. -/
  fresh : ∀ i members, freshRosterOf? i s.log = some members →
    Roster.subjects members = Roster.subjects s.world.roster
  /-- A sweep that was started since the last edit has read nothing before it. -/
  recent : ∀ i, .started i ∈ sinceEdit s.log → freshRosterOf? i s.log = rosterOf? i s.log

namespace Followed

variable {s : Overlap} {wall : Instant → Timestamp} {trigger : Trigger} {deadline now : Instant}
  {world later : World} {leg next : Leg Unit} {deed : Deed Unit}

/-- Nothing is known yet when nothing has happened, except that the workspace receives a binding. -/
theorem initial (hw : Receives w world) : Followed w { world } := by
  refine ⟨hw, nofun, fun _ _ => rfl, ?_, nofun, nofun, nofun⟩
  intro i a ha
  simp at ha

/-- What nobody reads or writes leaves the sweeps and the rosters as they are. -/
theorem legs_cons (h : Followed w s) (hread : ∀ i, rosterBy? i e = none) {i : Nat}
    {a : Activity Unit (Except Failure Action)} (ha : s.activities[i]? = some a) :
    ∃ trigger deadline leg, a = Leg.rest trigger deadline leg ∧ leg.Knows w i (e :: s.log) := by
  obtain ⟨trigger, deadline, leg, hleg, hknows⟩ := h.legs i a ha
  exact ⟨trigger, deadline, leg, hleg, hknows.cons (hread i)⟩

/-- A sweep is started and has done nothing yet. -/
theorem start (h : Followed w s) (trigger : Trigger) (deadline : Instant) :
    Followed w (s.start (reconcile trigger deadline)) := by
  have hread : ∀ i, rosterBy? i (.started s.activities.length) = none := fun _ => rfl
  have hlength : (s.start (reconcile trigger deadline)).activities.length =
      s.activities.length + 1 := List.length_append
  refine ⟨h.receives, ?_, ?_, ?_, h.written, h.fresh, ?_⟩
  · intro i hi
    rw [hlength]
    rcases List.mem_cons.mp hi with hnew | hold
    · cases hnew
      exact Nat.lt_succ_self _
    · exact Nat.lt_succ_of_lt (h.started i hold)
  · intro i hi
    rw [hlength] at hi
    exact h.unread i (Nat.le_of_succ_le hi)
  · intro i a ha
    have ha : (s.activities ++ [reconcile trigger deadline])[i]? = some a := ha
    rw [List.getElem?_append] at ha
    split at ha
    · exact h.legs_cons hread ha
    · rename_i hi
      obtain ⟨hlast, rfl⟩ := List.getElem?_eq_some_iff.mp ha
      have hzero : i - s.activities.length = 0 := Nat.lt_one_iff.mp hlast
      refine ⟨trigger, deadline, .connecting, by simp [hzero, Leg.rest], ?_⟩
      exact h.unread i (Nat.le_of_not_lt hi)
  · intro i hi
    have hi : Occurrence.started i ∈ .started s.activities.length :: sinceEdit s.log := hi
    rcases List.mem_cons.mp hi with hnew | hold
    · cases hnew
      have hnone := h.unread _ (Nat.le_refl s.activities.length)
      show freshRosterOf? _ s.log = rosterOf? _ s.log
      rw [hnone]
      -- Nothing was read since the edit, as nothing was read at all.
      rw [rosterOf?, List.findSome?_eq_none_iff] at hnone
      rw [freshRosterOf?, rosterOf?, List.findSome?_eq_none_iff]
      exact fun e he => hnone e (List.takeWhile_subset _ he)
    · exact h.recent i hold

/-- The roster is edited by somebody. What was known of the bindings is still true, but no longer of
the present roster. -/
theorem edit (h : Followed w s) (objects : SortedMap ResourceId StaffMember) :
    Followed w (s.change .roster { s.world with staff := { s.world.staff with objects } }) := by
  have hread : ∀ i, rosterBy? i (.changed .roster) = none := fun _ => rfl
  refine ⟨⟨h.receives.target, h.receives.present⟩, ?_, h.unread, fun _ _ => h.legs_cons hread,
    h.written, nofun, nofun⟩
  intro i hi
  rcases List.mem_cons.mp hi with hnew | hold
  · cases hnew
  · exact h.started i hold

/-- Something else is changed that touches neither the roster nor the bindings. -/
theorem change (h : Followed w s) (hstaff : world.staff.objects = s.world.staff.objects)
    (hbindings : world.remote.bindings = s.world.remote.bindings) (hw : Receives w world) :
    Followed w (s.change .elsewhere world) := by
  have hread : ∀ i, rosterBy? i (.changed .elsewhere) = none := fun _ => rfl
  refine ⟨hw, ?_, h.unread, fun _ _ => h.legs_cons hread, ?_, ?_, ?_⟩
  · intro i hi
    rcases List.mem_cons.mp hi with hnew | hold
    · cases hnew
    · exact h.started i hold
  · intro i hi
    show ∃ members b, _ ∧ world.remote.bindings.get? w = some b ∧ _
    rw [hbindings]
    exact h.written i hi
  · intro i members hi
    rw [show (s.change .elsewhere world).world.roster = s.world.roster from
      congrArg SortedMap.values hstaff]
    exact h.fresh i members hi
  · intro i hi
    have hi : Occurrence.started i ∈ .changed .elsewhere :: sinceEdit s.log := hi
    rcases List.mem_cons.mp hi with hnew | hold
    · cases hnew
    · exact h.recent i hold

/-- A sweep makes a move, and what is known of the last writer and of its roster is brought up to
date. One case for each kind of move. -/
theorem did (h : Followed w s) (hi : s.activities[i]? = some (leg.rest trigger deadline))
    (hknows : leg.Knows w i s.log)
    (hmove : Leg.Move (World.host wall) trigger deadline now s.world leg deed next later) :
    Followed w { world := later, activities := s.activities.set i (next.rest trigger deadline),
                 log := .did i deed :: s.log } := by
  have hspares := hmove.spares
  have hlt : i < s.activities.length := (List.getElem?_eq_some_iff.mp hi).1
  have hself : rosterBy? i (.did i deed) = roster? deed := if_pos rfl
  have hother : ∀ j, j ≠ i → rosterBy? j (.did i deed) = none := fun j hj => if_neg hj.symm
  -- A sweep reads the roster only once, so that what it has read stays.
  have hkeeps : ∀ j members, rosterOf? j s.log = some members →
      rosterOf? j (.did i deed :: s.log) = some members := by
    intro j members hroster
    refine (rosterOf?_cons_of_none ?_ s.log).trans hroster
    by_cases hj : j = i
    · subst hj
      rw [hself, Option.eq_none_iff_forall_ne_some]
      intro read hread
      obtain ⟨-, session, workspaces, rfl⟩ := hmove.of_read hread
      have hnone : rosterOf? j s.log = none := hknows.1
      rw [hnone] at hroster
      cases hroster
    · exact hother j hj
  refine ⟨⟨?_, hspares.vanishing.trans h.receives.present⟩, ?_, ?_, ?_, ?_, ?_, ?_⟩
  · rw [hspares.workspaces]
    exact h.receives.target
  · intro j hj
    rw [List.length_set]
    rcases List.mem_cons.mp hj with hnew | hold
    · cases hnew
    · exact h.started j hold
  · intro j hj
    rw [List.length_set] at hj
    rw [rosterOf?_cons_of_none (hother j (by omega))]
    exact h.unread j hj
  · intro j a ha
    by_cases hj : j = i
    · subst hj
      rw [List.getElem?_set_self hlt] at ha
      obtain rfl := Option.some.inj ha
      exact ⟨trigger, deadline, next, rfl, hmove.knows h.receives hknows⟩
    · rw [List.getElem?_set_ne (Ne.symm hj)] at ha
      obtain ⟨trigger', deadline', leg', hleg, hknows'⟩ := h.legs j a ha
      exact ⟨trigger', deadline', leg', hleg, hknows'.cons (hother j hj)⟩
  · intro j hj
    by_cases hwritten : written? deed = some w
    · rw [lastWriter?_cons, show writer? w (.did i deed) = some i from if_pos hwritten] at hj
      obtain rfl := Option.some.inj hj
      obtain ⟨basis, ws, left, o, rfl, -, hbindings⟩ := hmove.of_written hwritten
      refine ⟨basis.members, s.world.remote.rebuiltBinding w (Roster.subjects basis.members)
        (wall now), hkeeps i _ hknows.1, ?_, InMemory.subjectNames_rebuiltBinding _ _ _ _⟩
      rw [hbindings, SortedMap.get?_insert_self]
    · rw [lastWriter?_cons, show writer? w (.did i deed) = none from if_neg hwritten] at hj
      obtain ⟨members, b, hroster, hb, hsubjects⟩ := h.written j hj
      exact ⟨members, b, hkeeps j members hroster, (hmove.of_not_written hwritten).trans hb,
        hsubjects⟩
  · intro j members hj
    rw [freshRosterOf?_cons rfl] at hj
    rw [hspares.subjects h.receives.present]
    cases hread : rosterBy? j (.did i deed) with
    | none =>
      rw [hread] at hj
      exact h.fresh j members hj
    | some read =>
      rw [hread] at hj
      obtain rfl := Option.some.inj hj
      rw [rosterBy?] at hread
      split at hread
      · obtain ⟨hroster, -⟩ := hmove.of_read hread
        rw [hroster]
      · cases hread
  · intro j hj
    have hj : Occurrence.started j ∈ .did i deed :: sinceEdit s.log := hj
    rcases List.mem_cons.mp hj with hnew | hold
    · cases hnew
    · rw [freshRosterOf?_cons rfl, rosterOf?_cons, h.recent j hold]

/-- A sweep takes a turn, and what is followed stays followed. -/
theorem turn (h : Followed w s) (i : Nat) (now : Instant) (inTime : Bool) :
    Followed w (s.turn (World.host wall) i now inTime) := by
  rcases Interplay.turn_cases (World.host wall) i now inTime s with
    hsame | ⟨a, b, deed, later, hi, hturn, hnext⟩
  · rw [hsame]
    exact h
  · obtain ⟨trigger, deadline, leg, rfl, hknows⟩ := h.legs i a hi
    obtain ⟨next, rfl, hmove⟩ := Leg.move_of_turn hturn
    rw [hnext]
    exact h.did hi hknows hmove

end Followed

/-- A workspace that can receive its binding at first is followed through every overlap. -/
theorem followed {wall : Instant → Timestamp} {world : World} {s : Overlap}
    (hw : Receives w world) (h : Interplay.Reachable (overlapping wall w) world s) :
    Followed w s := by
  induction h with
  | initial => exact .initial hw
  | next _ step ih =>
    cases step with
    | start ha =>
      obtain ⟨trigger, deadline, rfl⟩ := ha
      exact ih.start trigger deadline
    | turn i now inTime => exact ih.turn i now inTime
    | change hchange =>
      cases hchange with
      | roster _ objects => exact ih.edit objects
      | elsewhere hstaff hbindings hnew => exact ih.change hstaff hbindings hnew

/-! ### The end of an overlap -/

/-- The binding of a workspace has the subjects of the roster, which is what all sweeps are for. -/
def Converged (w : String) (world : World) : Prop :=
  ∃ b, world.remote.bindings.get? w = some b ∧ b.subjectNames = Roster.subjects world.roster

/-- Every sweep has ended well, so that none is under way and none has met a failure. -/
def AllEndedWell (s : Overlap) : Prop :=
  ∀ a ∈ s.activities, ∃ action, a = .done (.ok action)

/-- A sweep was started since the last edit of the roster. -/
def StartedSinceEdit (s : Overlap) : Prop := ∃ i, .started i ∈ sinceEdit s.log

/-- Every sweep that has ended well has read the roster and written the binding. -/
theorem Followed.served {s : Overlap} (h : Followed w s) (hok : AllEndedWell s) {i : Nat}
    (hi : i < s.activities.length) : HasServed i w s.log := by
  obtain ⟨action, hdone⟩ := hok s.activities[i] (List.getElem_mem hi)
  obtain ⟨trigger, deadline, leg, hleg, hknows⟩ := h.legs i _ (List.getElem?_eq_getElem hi)
  obtain rfl := Leg.eq_ended_of_rest (hleg.symm.trans hdone)
  exact hknows action rfl

/-- The sweep that wrote the binding of a workspace last has read a roster with the subjects of
the roster as it is. -/
def LastWriterKnows (w : String) (s : Overlap) : Prop :=
  ∃ i members, lastWriter? w s.log = some i ∧ rosterOf? i s.log = some members ∧
    Roster.subjects members = Roster.subjects s.world.roster

/-- A binding that was written has the subjects of the roster just when its last writer has read
a roster with these subjects. -/
theorem Followed.converged_iff {s : Overlap} (h : Followed w s)
    (hlast : lastWriter? w s.log = some i) :
    Converged w s.world ↔ LastWriterKnows w s := by
  obtain ⟨members, b, hread, hb, hsubjects⟩ := h.written i hlast
  constructor
  · rintro ⟨other, hother, hroster⟩
    rw [hb] at hother
    obtain rfl := Option.some.inj hother
    exact ⟨i, members, hlast, hread, hsubjects.symm.trans hroster⟩
  · rintro ⟨j, others, hj, hothers, hroster⟩
    rw [hlast] at hj
    obtain rfl := Option.some.inj hj
    rw [hread] at hothers
    obtain rfl := Option.some.inj hothers
    exact ⟨b, hb, hsubjects.trans hroster⟩

/-- When every sweep has ended well, and one of them was started since the last edit of the roster,
then such a sweep has written the binding of the workspace from the roster as it is. But in the
end the binding has the subjects of the roster just when its last writer has read a roster with
these subjects, which it certainly has if it read the roster since the last edit. -/
theorem the_last_writer_decides {wall : Instant → Timestamp} {world : World} {s : Overlap}
    (hw : Receives w world) (h : Interplay.Reachable (overlapping wall w) world s)
    (hstart : StartedSinceEdit s) (hok : AllEndedWell s) :
    (∃ i members, freshRosterOf? i s.log = some members ∧ Wrote i w s.log ∧
      Roster.subjects members = Roster.subjects s.world.roster) ∧
    (Converged w s.world ↔ LastWriterKnows w s) ∧
    (∀ i members, lastWriter? w s.log = some i → freshRosterOf? i s.log = some members →
      Converged w s.world) := by
  have hfollowed := followed hw h
  obtain ⟨i, hi⟩ := hstart
  have hlog : .started i ∈ s.log := List.takeWhile_subset _ hi
  obtain ⟨⟨members, hmembers⟩, hwrote⟩ := hfollowed.served hok (hfollowed.started i hlog)
  have hfresh : freshRosterOf? i s.log = some members := (hfollowed.recent i hi).trans hmembers
  obtain ⟨j, hlast⟩ := exists_lastWriter hwrote
  refine ⟨⟨i, members, hfresh, hwrote, hfollowed.fresh i members hfresh⟩,
    hfollowed.converged_iff hlast, ?_⟩
  intro k read hk hsince
  exact (hfollowed.converged_iff hk).mpr
    ⟨k, read, hk, rosterOf?_of_fresh hsince, hfollowed.fresh k read hsince⟩

/-! ### Two sweeps that cross -/

/-- A world with two members of the staff and one workspace that is ready. -/
def twoMembers : World where
  remote := {
    sourceNamespace := "maintainerd"
    workspaces := .ofList [("zot", ⟨"zot", .ready, none, true, none⟩)] }
  staff := { objects := .ofList [
    (⟨"maintainerd", "ann"⟩, .edit none ⟨"maintainerd", "ann"⟩ "ann@x.io" .empty),
    (⟨"maintainerd", "bob"⟩, .edit none ⟨"maintainerd", "bob"⟩ "bob@x.io" .empty)] }

/-- A calendar that stands still, so that bindings differ by their subjects only. -/
def stillCalendar : Instant → Timestamp := fun _ => .epoch

/-- The member who stays on the roster and triggers the earlier sweep. -/
def annId : ResourceId := ⟨"maintainerd", "ann"⟩

/-- The member who leaves the roster while that sweep is under way. -/
def bob : ResourceId := ⟨"maintainerd", "bob"⟩

/-- A sweep that was triggered by the member who stays, has read both members and is about to write
the binding of the one workspace. -/
def aboutToWrite : Overlap :=
  Interplay.run (World.host stillCalendar) 0 0 4
    (Interplay.start { world := twoMembers } (reconcile (.staffMember annId) 1000))

/-- The other member is removed, which the first sweep does not see any more. -/
def bobRemoved : Overlap :=
  let world := aboutToWrite.world
  aboutToWrite.change .roster { world with
    staff := { world.staff with objects := world.staff.objects.erase bob } }

/-- The removal triggers another sweep, which ends before the first one goes on. The two sweeps have
different triggers, so one queue may well run them at the same time. -/
def crossing : Overlap :=
  Interplay.run (World.host stillCalendar) 0 0 4
    (Interplay.run (World.host stillCalendar) 1 0 8
      (bobRemoved.start (reconcile (.staffMember bob) 1000)))

/-- The one workspace is ready and managed, so that it can receive its binding. -/
theorem receives_twoMembers : Receives "zot" twoMembers :=
  ⟨⟨⟨"zot", .ready, none, true, none⟩, by decide, rfl, rfl⟩, rfl⟩

/-- The two sweeps come about by starts, turns and one edit of the roster. -/
theorem reachable_crossing :
    Interplay.Reachable (overlapping stillCalendar "zot") twoMembers crossing := by
  have hsweep (id : ResourceId) :
      (overlapping stillCalendar "zot").MayStart (reconcile (.staffMember id) 1000) :=
    ⟨_, _, rfl⟩
  have hwrite : Interplay.Reachable (overlapping stillCalendar "zot") twoMembers aboutToWrite :=
    (Interplay.Reachable.initial.next (.start _ (hsweep annId))).run 0 0 4
  have hremoved : Interplay.Reachable (overlapping stillCalendar "zot") twoMembers bobRemoved :=
    hwrite.next (.change _ (.roster _ _))
  exact ((hremoved.next (.start _ (hsweep bob))).run 1 0 8).run 0 0 4

/-- Both sweeps have ended well: neither has met a failure. -/
theorem crossing_ended : AllEndedWell crossing := by
  have hdone : crossing.activities = [.done (.ok .done), .done (.ok .done)] := rfl
  intro a ha
  rw [hdone] at ha
  rcases List.mem_cons.mp ha with rfl | ha
  · exact ⟨_, rfl⟩
  · exact ⟨_, List.mem_singleton.mp ha⟩

/-- In the course in which two sweeps cross, the second one was started after the edit, so it has
seen the roster as it is. -/
theorem crossing_started : StartedSinceEdit crossing :=
  ⟨1, List.mem_of_getElem? (i := 12) rfl⟩

/-- The binding still has the member as a subject, the roster no longer does. -/
theorem not_converged_crossing : ¬Converged "zot" crossing.world := by
  have hbinding : (crossing.world.remote.bindings.get? "zot").map (·.subjectNames) =
      some ["oidc:ann@x.io", "oidc:bob@x.io"] := by decide
  have hroster : Roster.subjects crossing.world.roster = ["oidc:ann@x.io"] := by decide
  rintro ⟨b, hb, hsubjects⟩
  rw [hb, Option.map_some, hsubjects, hroster] at hbinding
  cases hbinding

/-- The sweep that read the roster before the member was removed has written last. -/
theorem crossing_is_decided_by_the_first_sweep :
    lastWriter? "zot" crossing.log = some 0 ∧ freshRosterOf? 0 crossing.log = none ∧
      ¬LastWriterKnows "zot" crossing := by
  obtain ⟨-, hiff, -⟩ := the_last_writer_decides receives_twoMembers reachable_crossing
    crossing_started crossing_ended
  exact ⟨by decide, rfl, fun hknows => not_converged_crossing (hiff.mpr hknows)⟩

/-- Sweeps that overlap do not always leave the subjects of the roster in the bindings, although
one of them was started since the last edit and all have ended well. -/
theorem overlapping_sweeps_may_diverge :
    ¬∀ (wall : Instant → Timestamp) (w : String) (world : World) (s : Overlap), Receives w world →
      Interplay.Reachable (overlapping wall w) world s → StartedSinceEdit s → AllEndedWell s →
      Converged w s.world := by
  intro h
  exact not_converged_crossing (h stillCalendar "zot" twoMembers crossing receives_twoMembers
    reachable_crossing crossing_started crossing_ended)

end Sweep

end WorkspaceAccess
