import WorkspaceAccess.Proofs.Access.Leg
import WorkspaceAccess.Proofs.Reconcile.Interplay
import WorkspaceAccess.Reconcile.World

/-!
# Overlapping Sweeps

Any number of sweeps are under way in a world in memory while the roster is edited. A workspace is
followed that is ready throughout; everything else may change, except that nobody but the sweeps
writes bindings and nobody removes a member but by an edit (`Outside.Allows`).

The log tells which sweep wrote the binding of a workspace last (`lastWriter?`), which roster a
sweep has read (`rosterOf?`), and whether it read it since the last edit (`freshRosterOf?`). These
are read off the newest event that says anything about them, so that one event more changes them in
one way or leaves them as they are.

What a sweep does to the world is little. It adds annotations to one member, which does not change
the subjects of the roster; it writes a binding, which leaves the workspaces and all other bindings
alone; and all else that it does is to read and to report. `Spares` says so for every deed. The
equations about a single binding that is written are those of the rebuild, for the roster that the
sweep has read.

## Main results

* `Roster.subjects_congr`, `Roster.subjects_patch`: the subjects depend on the emails of the members
  only, and annotations do not change them.
* `InMemory.writeBinding_cases`: a binding is refused and nothing changes, or it is rebuilt and the
  write is counted.
* `lastWriter?_cons`, `rosterOf?_cons`, `freshRosterOf?_cons`: what one event more tells.
* `Leg.Move.spares`: what a move of a sweep leaves alone in the world.
* `Leg.Move.of_written`, `Leg.Move.of_not_written`: what a move writes and what it does not.
* `Leg.Move.of_read`: the roster that a move reads is that of the world.
-/

namespace WorkspaceAccess

/-! ### The roster -/

/-- The roster: the members in the order of their names, as they are listed. -/
def World.roster (world : World) : List StaffMember := world.staff.objects.values

/-- The subjects depend on the emails of the members only. -/
theorem Roster.subjects_congr {members others : List StaffMember}
    (h : members.map StaffMember.email = others.map StaffMember.email) :
    subjects members = subjects others := by
  have hemails : ∀ l : List StaffMember,
      l.filterMap StaffMember.email = (l.map StaffMember.email).filterMap id := by
    intro l
    rw [List.filterMap_map]
    rfl
  rw [subjects, subjects, hemails, hemails, h]

/-- Annotations of a member do not change the subjects of the roster. -/
theorem Roster.subjects_patch {staff : Store StaffMember} (hpresent : staff.vanishing = false)
    (id : ResourceId) (annotations : Annotations) :
    subjects (staff.patch StaffMember.annotate id annotations).2.objects.values =
      subjects staff.objects.values := by
  rw [Store.patch]
  split
  · rfl
  rw [hpresent]
  simp only [Bool.false_eq_true, if_false]
  split
  · rfl
  · rename_i member hmember
    refine subjects_congr ?_
    rw [← SortedMap.values_map, ← SortedMap.values_map]
    exact congrArg SortedMap.values (SortedMap.map_insert_of_eq hmember rfl)

/-- A patch does not change whether objects disappear when they are patched: that is a fault, and
faults stay. -/
theorem Store.vanishing_patch {α : Type} (annotate : α → Annotations → α) (s : Store α)
    (id : ResourceId) (annotations : Annotations) :
    (s.patch annotate id annotations).2.vanishing = s.vanishing := by
  rw [patch]
  split
  · rfl
  split
  · rfl
  split <;> rfl

/-- The objects that are listed are all that are there. -/
theorem Store.eq_values_of_list {α : Type} {s : Store α} {objects : List α}
    (h : s.list = .ok objects) : objects = s.objects.values := by
  rw [list] at h
  split at h
  · cases h
  · exact (Except.ok.inj h).symm

/-- The workspaces that are listed are those that can receive a binding. -/
theorem InMemory.eq_targets_of_listWorkspaces {r : InMemory} {workspaces : List WorkspaceInfo}
    (h : r.listWorkspaces = .ok workspaces) :
    workspaces = WorkspaceInfo.targets r.workspaces.values := by
  rw [listWorkspaces] at h
  split at h
  · cases h
  · exact (Except.ok.inj h).symm

/-- A binding is refused and nothing changes, or it is rebuilt and the write is counted. -/
theorem InMemory.writeBinding_cases (r : InMemory) (w : String) (subjects : List String)
    (now : Timestamp) :
    (∃ e, r.writeBinding w subjects now = (.error e, r)) ∨
      r.writeBinding w subjects now = (.ok (), { r with
        bindings := r.bindings.insert w (r.rebuiltBinding w subjects now)
        writes := r.writes.insert w (r.writes.getD w 0 + 1) }) := by
  rw [writeBinding]
  split
  · exact .inl ⟨_, rfl⟩
  split
  · exact .inl ⟨_, rfl⟩
  · exact .inr rfl

/-- A rebuilt binding has exactly the subjects that it was rebuilt for. -/
theorem InMemory.subjectNames_rebuiltBinding (r : InMemory) (w : String) (subjects : List String)
    (now : Timestamp) : (r.rebuiltBinding w subjects now).subjectNames = subjects := by
  show (subjects.map AccessBinding.user).map (·.name) = subjects
  rw [List.map_map]
  exact List.map_id _

namespace Sweep

/-! ### Who takes part -/

/-- Changes of the world by others than the sweeps. -/
inductive Outside where
  /-- The roster is edited: members are added, changed or removed. -/
  | roster
  /-- Anything else is changed that matters to no binding. -/
  | elsewhere
  deriving DecidableEq

/-- A workspace can receive its binding, and no member disappears but by an edit. -/
structure Receives (w : String) (world : World) : Prop where
  /-- The workspace is ready and managed, and kept under its name. -/
  target : ∃ ws, world.remote.workspaces.get? w = some ws ∧ ws.name = w ∧ ws.isTarget = true
  /-- Members are still there when they are patched. -/
  present : world.staff.vanishing = false

/-- What others may change while the workspace of a name is followed. -/
inductive Outside.Allows (w : String) : Outside → World → World → Prop
  /-- Members of the staff are added, changed and removed, in any way. -/
  | roster (world : World) (objects : SortedMap ResourceId StaffMember) :
      Allows w .roster world { world with staff := { world.staff with objects } }
  /-- Whatever leaves the roster, the bindings and the workspace alone. -/
  | elsewhere {old new : World} (hstaff : new.staff.objects = old.staff.objects)
      (hbindings : new.remote.bindings = old.remote.bindings) (hnew : Receives w new) :
      Allows w .elsewhere old new

/-- Sweeps for any triggers and with any deadlines, and what others may change while a workspace is
followed. -/
def overlapping (wall : Instant → Timestamp) (w : String) :
    Interplay.Cast Unit Outside World (Except Failure Action) where
  host := World.host wall
  MayStart a := ∃ trigger deadline, a = reconcile trigger deadline
  MayChange := Outside.Allows w

/-- Sweeps that share a world. -/
abbrev Overlap := Interplay Unit Outside World (Except Failure Action)

/-- What happened to sweeps that share a world. -/
abbrev OverlapLog := List (Occurrence Unit Outside)

/-! ### What the log tells -/

/-- The workspace whose binding was written, if the deed is a write that succeeded. -/
def written? : Deed Unit → Option String
  | .answered (.writeBinding _ ws _) (.ok _) => some ws
  | _ => none

/-- The roster that was read, if the deed is a listing of the staff that was answered. -/
def roster? : Deed Unit → Option (List StaffMember)
  | .answered .listStaff (.ok members) => some members
  | _ => none

namespace OverlapLog

/-- The sweep that wrote the binding of a workspace, if that is what happened. -/
def writer? (w : String) : Occurrence Unit Outside → Option Nat
  | .did i deed => if written? deed = some w then some i else none
  | _ => none

/-- The roster that a sweep read, if that is what happened. -/
def rosterBy? (i : Nat) : Occurrence Unit Outside → Option (List StaffMember)
  | .did j deed => if j = i then roster? deed else none
  | _ => none

/-- The roster was edited from outside. Sweeps that read it before do not know the present one. -/
def isEdit : Occurrence Unit Outside → Bool
  | .changed .roster => true
  | _ => false

/-- The sweep that wrote the binding of a workspace last. -/
def lastWriter? (w : String) (log : OverlapLog) : Option Nat := log.findSome? (writer? w)

/-- The roster that a sweep read last, if it has read one. A sweep reads it once. -/
def rosterOf? (i : Nat) (log : OverlapLog) : Option (List StaffMember) :=
  log.findSome? (rosterBy? i)

/-- What happened since the last edit of the roster. -/
def sinceEdit (log : OverlapLog) : OverlapLog := log.takeWhile fun e => !isEdit e

/-- The roster that a sweep read since the last edit, which is the one as it is but for
annotations. -/
def freshRosterOf? (i : Nat) (log : OverlapLog) : Option (List StaffMember) :=
  rosterOf? i (sinceEdit log)

/-- A sweep wrote the binding of a workspace at some time in the past. -/
def Wrote (i : Nat) (w : String) (log : OverlapLog) : Prop :=
  ∃ e ∈ log, writer? w e = some i

/-- The newest event decides who wrote last, if it is a write of the binding. -/
theorem lastWriter?_cons (w : String) (e : Occurrence Unit Outside) (log : OverlapLog) :
    lastWriter? w (e :: log) = (writer? w e).or (lastWriter? w log) := by
  rw [lastWriter?, List.findSome?_cons]
  cases writer? w e <;> rfl

/-- The newest event decides which roster a sweep has read, if it is a read of that sweep. -/
theorem rosterOf?_cons (i : Nat) (e : Occurrence Unit Outside) (log : OverlapLog) :
    rosterOf? i (e :: log) = (rosterBy? i e).or (rosterOf? i log) := by
  rw [rosterOf?, List.findSome?_cons]
  cases rosterBy? i e <;> rfl

/-- Nothing has happened since an edit that has just been made. -/
theorem sinceEdit_cons (e : Occurrence Unit Outside) (log : OverlapLog) :
    sinceEdit (e :: log) = if isEdit e then [] else e :: sinceEdit log := by
  rw [sinceEdit, List.takeWhile_cons]
  cases isEdit e <;> rfl

/-- What was read since the last edit, when something else happens. -/
theorem freshRosterOf?_cons {e : Occurrence Unit Outside} (h : isEdit e = false) (i : Nat)
    (log : OverlapLog) :
    freshRosterOf? i (e :: log) = (rosterBy? i e).or (freshRosterOf? i log) := by
  rw [freshRosterOf?, sinceEdit_cons, h]
  exact rosterOf?_cons i e _

/-- A roster that was read since the last edit is the one that was read last. -/
theorem rosterOf?_of_fresh {i : Nat} {members : List StaffMember} {log : OverlapLog}
    (h : freshRosterOf? i log = some members) : rosterOf? i log = some members := by
  have hsplit : sinceEdit log ++ log.dropWhile (fun e => !isEdit e) = log :=
    List.takeWhile_append_dropWhile
  rw [rosterOf?, ← hsplit, List.findSome?_append]
  rw [freshRosterOf?, rosterOf?] at h
  rw [h]
  rfl

/-- What a sweep has read stays when it reads nothing. -/
theorem rosterOf?_cons_of_none {i : Nat} {e : Occurrence Unit Outside} (h : rosterBy? i e = none)
    (log : OverlapLog) : rosterOf? i (e :: log) = rosterOf? i log := by
  rw [rosterOf?_cons, h]
  rfl

/-- What was written stays written: the past is only added to. -/
theorem Wrote.cons {i : Nat} {w : String} {log : OverlapLog} (h : Wrote i w log)
    (e : Occurrence Unit Outside) : Wrote i w (e :: log) := by
  obtain ⟨f, hf, hwriter⟩ := h
  exact ⟨f, List.mem_cons_of_mem e hf, hwriter⟩

/-- Whoever wrote a binding is known as a writer of it. -/
theorem exists_lastWriter {i : Nat} {w : String} {log : OverlapLog} (h : Wrote i w log) :
    ∃ j, lastWriter? w log = some j := by
  obtain ⟨e, he, hwriter⟩ := h
  rw [← Option.isSome_iff_exists, lastWriter?, List.findSome?_isSome_iff]
  exact ⟨e, he, by rw [hwriter]; rfl⟩

end OverlapLog

/-! ### What the moves of a sweep leave alone -/

section

variable {wall : Instant → Timestamp} {trigger : Trigger} {deadline now : Instant}
  {world later : World} {leg next : Leg Unit} {deed : Deed Unit}

/-- What a write that succeeds makes of the world. -/
theorem remote_of_write {clock : Clock} {w : String} {subjects : List String}
    (h : world.answer (.writeBinding () w subjects) clock = (.ok (), later)) :
    later.staff = world.staff ∧ later.remote.workspaces = world.remote.workspaces ∧
      later.remote.bindings = world.remote.bindings.insert w
        (world.remote.rebuiltBinding w subjects clock.wall) := by
  rcases world.remote.writeBinding_cases w subjects clock.wall with ⟨e, hfails⟩ | hwrites
  · simp only [World.answer, hfails] at h
    cases h
  · simp only [World.answer, hwrites] at h
    cases h
    exact ⟨rfl, rfl, rfl⟩

/-- A write that fails changes nothing in the world. -/
theorem eq_of_write_fails {clock : Clock} {w : String} {subjects : List String} {e : RemoteError}
    (h : world.answer (.writeBinding () w subjects) clock = (.error e, later)) :
    later = world := by
  rcases world.remote.writeBinding_cases w subjects clock.wall with ⟨e, hfails⟩ | hwrites
  · simp only [World.answer, hfails] at h
    cases h
    rfl
  · simp only [World.answer, hwrites] at h
    cases h

/-- What a deed of a sweep leaves alone in the world. -/
structure Spares (deed : Deed Unit) (world later : World) : Prop where
  /-- The workspaces of the control plane are as they were. -/
  workspaces : later.remote.workspaces = world.remote.workspaces
  /-- Whether members disappear when they are patched has not changed. -/
  vanishing : later.staff.vanishing = world.staff.vanishing
  /-- The subjects of the roster are the same, if no member disappears. -/
  subjects : world.staff.vanishing = false →
    Roster.subjects later.roster = Roster.subjects world.roster
  /-- The bindings are as they were, unless the deed writes one. -/
  bindings : written? deed = none → later.remote.bindings = world.remote.bindings

/-- Whatever leaves the world as it is leaves everything alone. -/
theorem Spares.refl (deed : Deed Unit) (world : World) : Spares deed world world :=
  ⟨rfl, rfl, fun _ => rfl, fun _ => rfl⟩

/-- No move of a sweep changes the workspaces or the subjects of the roster. -/
theorem Leg.Move.spares
    (h : Leg.Move (World.host wall) trigger deadline now world leg deed next later) :
    Spares deed world later := by
  have hpatch : ∀ id annotations,
      later = { world with staff := (world.staff.patch StaffMember.annotate id annotations).2 } →
      Spares deed world later := by
    rintro id annotations rfl
    exact ⟨rfl, Store.vanishing_patch _ _ _ _,
      fun hpresent => Roster.subjects_patch hpresent id annotations, fun _ => rfl⟩
  cases h with
  | connect h | connectFails h | list h | listFails h | read h | readFails h =>
    obtain ⟨-, rfl⟩ := Prod.mk.inj h
    exact .refl _ _
  | giveUpConnect | giveUpList | giveUpRead | abandon | choose | giveUpWrite | time =>
    exact .refl _ _
  | report => exact ⟨rfl, rfl, fun _ => rfl, fun _ => rfl⟩
  | write h =>
    obtain ⟨hstaff, hworkspaces, -⟩ := remote_of_write h
    refine ⟨hworkspaces, by rw [hstaff], fun _ => ?_, nofun⟩
    rw [World.roster, hstaff]
    rfl
  | writeFails h =>
    obtain rfl := eq_of_write_fails h
    exact .refl _ _
  | record h | recordFails h => exact hpatch _ _ (Prod.mk.inj h).2.symm

/-- A binding that a move writes is rebuilt for the roster that the sweep has read. -/
theorem Leg.Move.of_written {w : String}
    (h : Leg.Move (World.host wall) trigger deadline now world leg deed next later)
    (hwritten : written? deed = some w) :
    ∃ (basis : Basis Unit) (ws : WorkspaceInfo) (left : List WorkspaceInfo) (o : Outcome),
      leg = writing basis ws left o ∧ ws.name = w ∧
      later.remote.bindings = world.remote.bindings.insert w
        (world.remote.rebuiltBinding w (Roster.subjects basis.members) (wall now)) := by
  cases h with
  | @write basis ws left o _ h =>
    obtain ⟨-, -, hbindings⟩ := remote_of_write h
    obtain rfl := Option.some.inj hwritten
    exact ⟨basis, ws, left, o, rfl, rfl, hbindings⟩
  | connect | connectFails | list | listFails | read | readFails | giveUpConnect | giveUpList
  | giveUpRead | abandon | choose | writeFails | giveUpWrite | report | time | record
  | recordFails => cases hwritten

/-- A move that does not write the binding of a workspace leaves it alone. -/
theorem Leg.Move.of_not_written {w : String}
    (h : Leg.Move (World.host wall) trigger deadline now world leg deed next later)
    (hwritten : written? deed ≠ some w) :
    later.remote.bindings.get? w = world.remote.bindings.get? w := by
  cases hdeed : written? deed with
  | none => rw [h.spares.bindings hdeed]
  | some other =>
    obtain ⟨_, _, _, _, -, -, hbindings⟩ := h.of_written hdeed
    rw [hbindings]
    refine SortedMap.get?_insert_of_ne ?_
    rintro rfl
    exact hwritten hdeed

/-- The roster that a move reads is that of the world. -/
theorem Leg.Move.of_read {members : List StaffMember}
    (h : Leg.Move (World.host wall) trigger deadline now world leg deed next later)
    (hread : roster? deed = some members) :
    members = world.roster ∧ ∃ session workspaces, leg = reading session workspaces := by
  cases h with
  | @read session workspaces _ _ h =>
    have hlist : world.staff.list = .ok members := by
      rw [← Option.some.inj hread]
      exact (Prod.mk.inj h).1
    exact ⟨Store.eq_values_of_list hlist, session, workspaces, rfl⟩
  | connect | connectFails | list | listFails | readFails | giveUpConnect | giveUpList
  | giveUpRead | abandon | choose | write | writeFails | giveUpWrite | report | time | record
  | recordFails => cases hread

end

end Sweep

end WorkspaceAccess
