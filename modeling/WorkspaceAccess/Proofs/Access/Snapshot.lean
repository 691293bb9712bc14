import WorkspaceAccess.Proofs.Access.Convergence
import WorkspaceAccess.Proofs.Access.Rebuild
import WorkspaceAccess.Proofs.Access.Roster

/-!
# Bindings Are Snapshots of the Roster

Any number of sweeps are under way in a world in memory, while others edit the roster, add, change
and remove workspaces, let requests fail and put bindings of their own in place. The log tells by
whose hand the binding of a workspace is what it is (`lastHand?`).

A sweep takes every binding from the one roster that it has read (`Leg.HasRead`), and a write either
replaces the whole binding or nothing. So a binding that a sweep wrote last belongs to one roster,
however many sweeps have written it before. It never mixes the subjects of two rosters, and never
the subjects of one with the count of another.

A snapshot is described by what is in the binding (`AccessBinding.IsSnapshot`): its name, the role
that it grants, the label by which it is known, the subjects of the roster in strict order, each an
email that is more than blanks behind the prefix, and their number in decimal. Which roster it is
may be read in the log: one that a listing returned to the very sweep that wrote last. It may be out
of date by then, which is no matter of this module.

## Main results

* `AccessBinding.isSnapshot_of_isRebuilt`: a binding that is rebuilt for a roster is a snapshot of
  it, whatever was there before.
* `Leg.Move.hasRead`: a sweep comes to write by a listing of the roster only, and keeps to what that
  returned.
* `Leg.Move.isSnapshot`: a sweep that writes a binding makes it a snapshot.
* `witnessed`: what is known of sweeps among others, from the start and for every course.
* `bindings_are_snapshots`: a binding that was last written by a sweep is a snapshot of one roster.
* `the_slow_sweep_leaves_its_snapshot`: two sweeps, of which the one that has read first writes
  last.
-/

namespace WorkspaceAccess

/-- The binding is what a rebuild makes for one roster. -/
structure AccessBinding.IsSnapshot (members : List StaffMember) (b : ClusterRoleBinding) :
    Prop where
  /-- It has the one name that all access bindings have. -/
  name : b.metadata.name = some "cncf-staff-access"
  /-- It grants the role of the administrators of the cluster. -/
  role : b.roleRef =
    { apiGroup := "rbac.authorization.k8s.io", kind := "ClusterRole", name := "cluster-admin" }
  /-- It is labelled as one that this controller manages. -/
  managed : b.metadata.labelsD.get? "app.kubernetes.io/managed-by" =
    some "maintainerd-access-controller"
  /-- The names of its subjects are those of the roster, all of them and no others. -/
  subjects : b.subjectNames = Roster.subjects members
  /-- They are in strict order, so that none is repeated. -/
  sorted : b.subjectNames.Pairwise KeyOrder.Before
  /-- Each of them stands for an email that is more than blanks. -/
  usable : ∀ s ∈ b.subjectNames, ∃ email, s = "oidc:" ++ email ∧ Text.HasContent email
  /-- It says in decimal how many they are. -/
  counted : b.metadata.annotationsD.get? "maintainer-d.cncf.io/staff-count" =
    some (toString b.subjectNames.length)

/-- A binding that is rebuilt for the subjects of a roster is a snapshot of it. -/
theorem AccessBinding.isSnapshot_of_isRebuilt {members : List StaffMember} {b : ClusterRoleBinding}
    {old : ObjectMeta} {sourceNamespace : String} {now : Timestamp}
    (hname : b.metadata.name = some AccessBinding.name)
    (h : IsRebuilt old (Roster.subjects members) sourceNamespace now b) :
    IsSnapshot members b where
  name := hname
  role := h.role
  managed := h.managed
  subjects := h.subjectNames
  sorted := h.subjectNames ▸ Roster.subjects_sorted members
  usable s hs := by
    rw [h.subjectNames] at hs
    obtain ⟨m, -, email, hemail, rfl⟩ := Roster.mem_subjects.mp hs
    exact ⟨email, rfl, m.hasContent_of_email hemail⟩
  counted := h.subjectNames.symm ▸ h.counted

/-- The binding that is written for the subjects of a roster is a snapshot of it, whatever was there
before. -/
theorem InMemory.isSnapshot_rebuiltBinding (r : InMemory) (w : String) (members : List StaffMember)
    (now : Timestamp) :
    AccessBinding.IsSnapshot members (r.rebuiltBinding w (Roster.subjects members) now) :=
  AccessBinding.isSnapshot_of_isRebuilt rfl <|
    (AccessBinding.desired_isRebuilt (r.bindings.get? w) (Roster.subjects members)
      r.sourceNamespace now).congr rfl rfl rfl rfl

namespace Sweep

/-! ### Who takes part -/

/-- Changes of the world by others than the sweeps. -/
inductive Meddling where
  /-- The binding of a workspace is put in place, changed or removed. -/
  | binding (w : String)
  /-- Anything else is changed, but no binding. -/
  | elsewhere

/-- What others may change. -/
inductive Meddling.Allows : Meddling → World → World → Prop
  /-- The binding of one workspace is changed, and whatever else. -/
  | binding {w : String} {old new : World}
      (hothers : ∀ v, v ≠ w → new.remote.bindings.get? v = old.remote.bindings.get? v) :
      Allows (.binding w) old new
  /-- The roster, the workspaces, the faults and everything else but the bindings is changed. -/
  | elsewhere {old new : World} (hbindings : new.remote.bindings = old.remote.bindings) :
      Allows .elsewhere old new

/-- Sweeps for any triggers and with any deadlines, among others who change what they like. -/
def meddled (wall : Instant → Timestamp) :
    Interplay.Cast Unit Meddling World (Except Failure Action) where
  host := World.host wall
  MayStart a := ∃ trigger deadline, a = reconcile trigger deadline
  MayChange := Meddling.Allows

/-- Sweeps among others. -/
abbrev Bustle := Interplay Unit Meddling World (Except Failure Action)

/-- What happened among sweeps and others. -/
abbrev BustleLog := List (Occurrence Unit Meddling)

/-! ### What the log tells -/

/-- Who has made the binding of a workspace what it is. -/
inductive Hand where
  /-- A sweep has written the binding, the one of that number. -/
  | sweep (i : Nat)
  /-- Someone else has written or removed the binding. -/
  | other
  deriving DecidableEq

namespace BustleLog

/-- Who made a binding what it is, if that is what happened. -/
def hand? (w : String) : Occurrence Unit Meddling → Option Hand
  | .did i deed => if written? deed = some w then some (.sweep i) else none
  | .changed (.binding v) => if v = w then some .other else none
  | _ => none

/-- Who has made the binding of a workspace what it is. -/
def lastHand? (w : String) (log : BustleLog) : Option Hand := log.findSome? (hand? w)

/-- A listing of the roster returned these members to a sweep, at some time. -/
def Listed (i : Nat) (members : List StaffMember) (log : BustleLog) : Prop :=
  .did i (.answered .listStaff (.ok members)) ∈ log

/-- The newest event decides by whose hand a binding is what it is, if it touches the binding. -/
theorem lastHand?_cons (w : String) (e : Occurrence Unit Meddling) (log : BustleLog) :
    lastHand? w (e :: log) = (hand? w e).or (lastHand? w log) := by
  rw [lastHand?, List.findSome?_cons]
  cases hand? w e <;> rfl

end BustleLog

open BustleLog

variable {i : Nat} {log : BustleLog}

/-! ### One sweep -/

namespace Leg

/-- What a sweep starts from, once it has read it. -/
def basis? : Leg Unit → Option (Basis Unit)
  | choosing basis _ _ | writing basis _ _ _ => some basis
  | _ => none

/-- The roster that a sweep writes was returned to it. -/
def HasRead (i : Nat) (log : BustleLog) (leg : Leg Unit) : Prop :=
  ∀ basis, leg.basis? = some basis → Listed i basis.members log

variable {leg next : Leg Unit} {wall : Instant → Timestamp} {trigger : Trigger}
  {deadline now : Instant} {world later : World} {deed : Deed Unit}

/-- What a sweep has read it has read for good, whatever happens next. -/
theorem HasRead.cons (h : leg.HasRead i log) (e : Occurrence Unit Meddling) :
    leg.HasRead i (e :: log) :=
  fun basis hbasis => List.mem_cons_of_mem e (h basis hbasis)

/-- A sweep comes to write by a listing of the roster only, and keeps to what that returned. -/
theorem Move.hasRead (h : leg.HasRead i log)
    (hmove : Move (World.host wall) trigger deadline now world leg deed next later) :
    next.HasRead i (.did i deed :: log) := by
  intro basis hbasis
  cases hmove with
  | read =>
    obtain rfl := Option.some.inj hbasis
    exact List.mem_cons_self
  | abandon | choose | write | writeFails | giveUpWrite =>
    obtain rfl := Option.some.inj hbasis
    exact List.mem_cons_of_mem _ (h _ rfl)
  | report => cases trigger <;> cases hbasis
  | connect | connectFails | list | listFails | readFails | giveUpConnect | giveUpList | giveUpRead
  | time | record | recordFails => cases hbasis

/-- A sweep that writes a binding makes it a snapshot of the roster that it has read. -/
theorem Move.isSnapshot {w : String} (h : leg.HasRead i log)
    (hmove : Move (World.host wall) trigger deadline now world leg deed next later)
    (hwritten : written? deed = some w) :
    ∃ members b, Listed i members log ∧ later.remote.bindings.get? w = some b ∧
      AccessBinding.IsSnapshot members b := by
  obtain ⟨basis, ws, left, o, rfl, -, hbindings⟩ := hmove.of_written hwritten
  refine ⟨basis.members, _, h basis rfl, ?_,
    world.remote.isSnapshot_rebuiltBinding w basis.members (wall now)⟩
  rw [hbindings, SortedMap.get?_insert_self]

end Leg

/-! ### All of them -/

/-- A sweep is at a leg, and has read what it writes. -/
def OnItsWay (log : BustleLog) (i : Nat) (a : Activity Unit (Except Failure Action)) : Prop :=
  ∃ trigger deadline leg, a = Leg.rest trigger deadline leg ∧ leg.HasRead i log

/-- The binding of a workspace is a snapshot of a roster that was returned to a sweep. -/
def WroteSnapshot (i : Nat) (w : String) (s : Bustle) : Prop :=
  ∃ members b, Listed i members s.log ∧ s.world.remote.bindings.get? w = some b ∧
    AccessBinding.IsSnapshot members b

/-- What is known of sweeps among others. -/
structure Witnessed (s : Bustle) : Prop where
  /-- All sweeps are on their way, each knowing the roster that it has read. -/
  sweeps : Interplay.Each (OnItsWay s.log) s.activities
  /-- A binding that a sweep wrote last is a snapshot. -/
  snapshots : ∀ w i, lastHand? w s.log = some (.sweep i) → WroteSnapshot i w s

namespace Witnessed

variable {s : Bustle} {wall : Instant → Timestamp} {world : World}

/-- Whatever else happens, the sweeps are on their way. -/
theorem sweeps_cons (h : Witnessed s) (e : Occurrence Unit Meddling) :
    Interplay.Each (OnItsWay (e :: s.log)) s.activities := by
  refine h.sweeps.imp fun i a => ?_
  rintro ⟨trigger, deadline, leg, rfl, hread⟩
  exact ⟨trigger, deadline, leg, rfl, hread.cons e⟩

/-- What no hand touches stays a snapshot: an occurrence that leaves the binding alone does not
change who wrote it last, nor what was written. -/
theorem snapshots_cons (h : Witnessed s) {w : String} {i : Nat} {e : Occurrence Unit Meddling}
    {t : Bustle} (hlog : t.log = e :: s.log) (he : hand? w e = none)
    (hbinding : t.world.remote.bindings.get? w = s.world.remote.bindings.get? w)
    (hlast : lastHand? w t.log = some (.sweep i)) : WroteSnapshot i w t := by
  rw [hlog, lastHand?_cons, he, Option.none_or] at hlast
  obtain ⟨members, b, hlisted, hb, hsnapshot⟩ := h.snapshots w i hlast
  exact ⟨members, b, hlog ▸ List.mem_cons_of_mem e hlisted, hbinding.trans hb, hsnapshot⟩

/-- A sweep is started. It has written nothing, so all bindings are still the snapshots they
were. -/
theorem start (h : Witnessed s) (trigger : Trigger) (deadline : Instant) :
    Witnessed (s.start (reconcile trigger deadline)) where
  sweeps := (h.sweeps_cons _).concat ⟨trigger, deadline, .connecting, rfl, nofun⟩
  snapshots _ _ := h.snapshots_cons rfl rfl rfl

/-- Others change something. If that is a binding, the hand on it is theirs from now on, and nothing
is promised of it. -/
theorem change (h : Witnessed s) {kind : Meddling} (hallows : kind.Allows s.world world) :
    Witnessed (s.change kind world) where
  sweeps := h.sweeps_cons _
  snapshots w i hlast := by
    cases hallows with
    | @binding v _ _ hothers =>
      by_cases hv : v = w
      · -- The binding is theirs then.
        have hhand : hand? w (.changed (.binding v)) = some .other := if_pos hv
        rw [show (s.change (.binding v) world).log = .changed (.binding v) :: s.log from rfl,
          lastHand?_cons, hhand] at hlast
        cases hlast
      · exact h.snapshots_cons rfl (if_neg hv) (hothers w (Ne.symm hv)) hlast
    | elsewhere hbindings =>
      exact h.snapshots_cons rfl rfl (congrArg (SortedMap.get? · w) hbindings) hlast

/-- A sweep takes a turn, by which it may write one binding from the roster that it has read. -/
theorem turn (h : Witnessed s) (i : Nat) (now : Instant) (inTime : Bool) :
    Witnessed (s.turn (World.host wall) i now inTime) := by
  rcases Interplay.turn_cases (World.host wall) i now inTime s with
    hsame | ⟨a, b, deed, later, hi, hturn, hnext⟩
  · rw [hsame]
    exact h
  obtain ⟨trigger, deadline, leg, rfl, hread⟩ := h.sweeps i a hi
  obtain ⟨next, rfl, hmove⟩ := Leg.move_of_turn hturn
  rw [hnext]
  refine ⟨(h.sweeps_cons _).set ⟨trigger, deadline, next, rfl, hmove.hasRead hread⟩, ?_⟩
  intro w j hlast
  by_cases hwritten : written? deed = some w
  · have hhand : hand? w (.did i deed) = some (.sweep i) := if_pos hwritten
    rw [lastHand?_cons, hhand] at hlast
    cases hlast
    obtain ⟨members, b, hlisted, hb, hsnapshot⟩ := hmove.isSnapshot hread hwritten
    exact ⟨members, b, List.mem_cons_of_mem _ hlisted, hb, hsnapshot⟩
  · exact h.snapshots_cons rfl (if_neg hwritten) (hmove.of_not_written hwritten) hlast

end Witnessed

/-- Sweeps among others are witnessed from the start, whatever the world is like at first. -/
theorem witnessed {wall : Instant → Timestamp} {world : World} {s : Bustle}
    (h : Interplay.Reachable (meddled wall) world s) : Witnessed s := by
  induction h with
  | initial => exact ⟨nofun, nofun⟩
  | next _ step ih =>
    cases step with
    | start ha =>
      obtain ⟨trigger, deadline, rfl⟩ := ha
      exact ih.start trigger deadline
    | turn i now inTime => exact ih.turn i now inTime
    | change hchange => exact ih.change hchange

/-- Whatever sweeps and others have done, a binding that was last written by a sweep is a snapshot
of one roster, which a listing of the roster returned to that sweep. -/
theorem bindings_are_snapshots {wall : Instant → Timestamp} {world : World} {s : Bustle}
    (h : Interplay.Reachable (meddled wall) world s) {w : String} {i : Nat}
    (hlast : lastHand? w s.log = some (.sweep i)) :
    ∃ members b, Listed i members s.log ∧ s.world.remote.bindings.get? w = some b ∧
      AccessBinding.IsSnapshot members b :=
  (witnessed h).snapshots w i hlast

/-! ### A slow sweep -/

/-- Two members, and a workspace with a binding of another name and role. -/
def otherBinding : World := { twoMembers with
  remote := twoMembers.remote.setBinding "zot"
    { metadata := { name := some "other" }, roleRef := { name := "view" } } }

/-- Someone else puts the binding in place, and a sweep for the member who stays comes to write. -/
def slowStart : Bustle :=
  Interplay.run (World.host stillCalendar) 0 0 4
    (Interplay.start (Interplay.change (.binding "zot") otherBinding { world := twoMembers })
      (reconcile (.staffMember annId) 1000))

/-- The other member is removed, after the first sweep has read the roster. -/
def slowAndOutdated : Bustle :=
  let world := slowStart.world
  slowStart.change .elsewhere { world with
    staff := { world.staff with objects := world.staff.objects.erase bob } }

/-- The removal triggers a second sweep, which ends before the first one goes on. -/
def slowSweep : Bustle :=
  Interplay.run (World.host stillCalendar) 0 0 4
    (Interplay.run (World.host stillCalendar) 1 0 8
      (slowAndOutdated.start (reconcile (.staffMember bob) 1000)))

/-- The slow sweep comes about by starts, turns and changes by others. -/
theorem reachable_slowSweep :
    Interplay.Reachable (meddled stillCalendar) twoMembers slowSweep := by
  have hsweep (id : ResourceId) :
      (meddled stillCalendar).MayStart (reconcile (.staffMember id) 1000) :=
    ⟨_, _, rfl⟩
  have hput : (Meddling.binding "zot").Allows twoMembers otherBinding :=
    .binding fun v hv => SortedMap.get?_insert_of_ne hv
  have hstart : Interplay.Reachable (meddled stillCalendar) twoMembers slowStart :=
    ((Interplay.Reachable.initial.next (.change _ hput)).next (.start _ (hsweep annId))).run 0 0 4
  have hremoved : Interplay.Reachable (meddled stillCalendar) twoMembers slowAndOutdated :=
    hstart.next (.change _ (.elsewhere rfl))
  exact ((hremoved.next (.start _ (hsweep bob))).run 1 0 8).run 0 0 4

/-- The slow sweep wrote last, and left the subjects of the roster that it had read. -/
theorem the_slow_sweep_leaves_its_snapshot :
    Interplay.Reachable (meddled stillCalendar) twoMembers slowSweep ∧
      lastHand? "zot" slowSweep.log = some (.sweep 0) ∧
      ∃ members b, Listed 0 members slowSweep.log ∧
        slowSweep.world.remote.bindings.get? "zot" = some b ∧
        AccessBinding.IsSnapshot members b := by
  have hlast : lastHand? "zot" slowSweep.log = some (.sweep 0) := by decide
  exact ⟨reachable_slowSweep, hlast, bindings_are_snapshots reachable_slowSweep hlast⟩

end Sweep

end WorkspaceAccess
