import Mathlib.Algebra.GroupWithZero.Nat
import WorkspaceAccess.Proofs.Access.Convergence

/-!
# Metrics Conserve the Work

A write of a binding is counted by the remote control plane when it happens, but comes to the
metrics only when the sweep has gone through all its workspaces and reports. In between other sweeps
report, fail or give up. So it is the metrics and what the sweeps under way have not reported yet
(`Leg.underway`, `Leg.written`, `Leg.share`) that add up to the work that was done: to the sweeps
that got past their reads (`OverlapLog.past`), to the writes that were counted and to the workspaces
that were listed for these sweeps (`OverlapLog.taken`).

Every move keeps the sums (`Leg.Move.balance`), and once no sweep is under way the metrics are all
there is. The sums are three, for the sweeps, the writes and the workspaces, and a move changes two
terms of each at most: what is in the metrics, and what this one sweep has not reported. The others
under way only have to be left alone.

The gauge of the subjects is not a sum. It shows the roster of the sweep that reported last
(`OverlapLog.Gauged`), which need not be the one that read last.

## Main results

* `sum_map_set`, `SortedMap.sum_values_insert`: how a sum changes when one term does.
* `Leg.Move.balance`: what a move of a sweep does to the metrics and to what is not in them yet.
* `Leg.Move.known`, `Leg.Move.past`, `Leg.Move.taken`, `Leg.Move.gauged`: what the log tells of a
  sweep after a move.
* `Booked.start`, `Booked.change`, `Booked.turn`: whatever happens, the books are kept.
* `booked`: the books are kept from the start, by induction on the course.
* `metrics_conserve_work`: whenever no sweep is under way, the metrics agree with what all sweeps
  have done.
* `three_sweeps_are_settled`: three sweeps, one of which gives up, and one of which cannot record.
-/

namespace WorkspaceAccess

/-! ### Sums -/

/-- A new element of a list takes the place of the old one in a sum. -/
theorem sum_map_set {α : Type} (f : α → Nat) {l : List α} {i : Nat} {a : α} (h : l[i]? = some a)
    (b : α) : ((l.set i b).map f).sum + f a = (l.map f).sum + f b := by
  induction l generalizing i with
  | nil => cases h
  | cons x rest ih =>
    cases i with
    | zero =>
      obtain rfl := Option.some.inj h
      simp only [List.set_cons_zero, List.map_cons, List.sum_cons]
      omega
    | succ i =>
      have hrest := ih h
      simp only [List.set_cons_succ, List.map_cons, List.sum_cons]
      omega

/-- A new value takes the place of the old one in the sum of all values. -/
theorem SortedMap.sum_values_insert {κ : Type} [KeyOrder κ] (m : SortedMap κ Nat) (k : κ)
    (n : Nat) : (m.insert k n).values.sum + m.getD k 0 = m.values.sum + n := by
  obtain ⟨l, hsorted⟩ := m
  show ((insertEntry k n l).map (·.2)).sum + (lookup k l).getD 0 = (l.map (·.2)).sum + n
  induction l with
  | nil => exact Nat.add_comm _ _
  | cons e rest ih =>
    obtain ⟨hfirst, hrest⟩ := List.pairwise_cons.mp hsorted
    simp only [insertEntry]
    split
    case h_1 hlt =>
      have hnone : lookup k (e :: rest) = none :=
        lookup_eq_none_of_forall (List.forall_mem_cons.mpr
          ⟨hlt, fun d hd => KeyOrder.Before.trans hlt (hfirst d hd)⟩)
      simp only [hnone, List.map_cons, List.sum_cons, Option.getD_none]
      omega
    case h_2 heq =>
      simp only [lookup, heq, if_true, List.map_cons, List.sum_cons, Option.getD_some]
      omega
    case h_3 hgt =>
      have hsum := ih hrest
      simp only [lookup, hgt, reduceCtorEq, if_false, List.map_cons, List.sum_cons]
      omega

/-- How often bindings were written, all workspaces of the control plane taken together. -/
def InMemory.written (r : InMemory) : Nat := r.writes.values.sum

namespace Sweep

/-- A workspace that failed has been come to, just like one that was written. -/
theorem Outcome.total_fail (o : Outcome) (workspace : String) (failure : WorkspaceFailure) :
    (o.fail workspace failure).total = o.total + 1 := by
  simp only [total, fail, List.length_append, List.length_singleton]
  omega

/-- A workspace that was updated has been come to. -/
theorem Outcome.total_succeed (o : Outcome) : o.succeed.total = o.total + 1 := by
  simp only [total, succeed]
  omega

/-! ### Who takes part -/

/-- Sweeps for any triggers and with any deadlines. Others may change whatever they like, but do
not count for them. -/
def counted (wall : Instant → Timestamp) :
    Interplay.Cast Unit Outside World (Except Failure Action) where
  host := World.host wall
  MayStart a := ∃ trigger deadline, a = reconcile trigger deadline
  MayChange _ old new := new.metrics = old.metrics ∧ new.remote.writes = old.remote.writes

/-! ### What the log tells -/

namespace OverlapLog

/-- The sweep that got past its reads, if that is what happened: it reads the roster last. -/
def past? : Occurrence Unit Outside → Option Nat
  | .did i deed => (roster? deed).map fun _ => i
  | _ => none

/-- The workspaces that were listed for a sweep, if that is what happened. -/
def listing? (i : Nat) : Occurrence Unit Outside → Option (List WorkspaceInfo)
  | .did j (.answered (.listWorkspaces _) (.ok workspaces)) =>
    if j = i then some workspaces else none
  | _ => none

/-- The sweep that reported, if that is what happened. -/
def reporter? : Occurrence Unit Outside → Option Nat
  | .did i (.reported _) => some i
  | _ => none

/-- The sweeps that got past their reads, by their numbers, the last one first. -/
def past (log : OverlapLog) : List Nat := log.filterMap past?

/-- The workspaces that were listed for a sweep, if its listing has been answered. -/
def workspacesOf? (i : Nat) (log : OverlapLog) : Option (List WorkspaceInfo) :=
  log.findSome? (listing? i)

/-- How many workspaces were listed for a sweep, which is what it has to account for. -/
def share (log : OverlapLog) (i : Nat) : Nat := ((workspacesOf? i log).map List.length).getD 0

/-- How many workspaces were listed for the sweeps that got past their reads. A sweep that fails on
the roster has listed workspaces too, but has taken none of them on. -/
def taken (log : OverlapLog) : Nat := ((past log).map (share log)).sum

/-- The sweep that reported last, which is the one whose subjects the gauge shows. -/
def lastReporter? (log : OverlapLog) : Option Nat := log.findSome? reporter?

/-- A listing of the roster returned these members to a sweep, at some time. -/
def Returned (i : Nat) (members : List StaffMember) (log : OverlapLog) : Prop :=
  .did i (.answered .listStaff (.ok members)) ∈ log

variable {i : Nat} {e : Occurrence Unit Outside} {log : OverlapLog}

/-- A sweep has got past its reads when it just did, or had done so before. -/
theorem mem_past_cons : i ∈ past (e :: log) ↔ past? e = some i ∨ i ∈ past log := by
  simp only [past, List.mem_filterMap, List.mem_cons, exists_eq_or_imp]

/-- What is listed for a sweep is not listed for another one. -/
theorem listing?_did_of_ne {j : Nat} (hne : j ≠ i) (deed : Deed Unit) :
    listing? i (.did j deed) = none := by
  rw [listing?.eq_def]
  split
  · rename_i hdeed
    cases hdeed
    exact if_neg hne
  · rfl

/-- The sweep that reported last is the one that just did, if one has. -/
theorem lastReporter?_cons :
    lastReporter? (e :: log) = (reporter? e).or (lastReporter? log) := by
  rw [lastReporter?, List.findSome?_cons]
  cases reporter? e <;> rfl

/-- What was listed for a sweep stays when nothing is listed for it. -/
theorem workspacesOf?_cons_of_none (h : listing? i e = none) :
    workspacesOf? i (e :: log) = workspacesOf? i log := by
  rw [workspacesOf?, List.findSome?_cons, h]
  rfl

/-- Once workspaces were listed for a sweep, some are. -/
theorem exists_workspacesOf?_cons {workspaces : List WorkspaceInfo}
    (h : workspacesOf? i log = some workspaces) :
    ∃ others, workspacesOf? i (e :: log) = some others := by
  cases hlisting : listing? i e with
  | none => exact ⟨workspaces, (workspacesOf?_cons_of_none hlisting).trans h⟩
  | some others => exact ⟨others, by rw [workspacesOf?, List.findSome?_cons, hlisting]⟩

/-- Of so many sweeps some got past their reads, each once and with workspaces listed for it. -/
structure Orderly (n : Nat) (log : OverlapLog) : Prop where
  /-- The sweeps that got past their reads were started. -/
  started : ∀ i ∈ past log, i < n
  /-- Workspaces were listed for each of them before that. -/
  listing : ∀ i ∈ past log, ∃ workspaces, workspacesOf? i log = some workspaces
  /-- None of them got past its reads twice. -/
  once : (past log).Nodup

/-- Starting one more sweep keeps the log in order, with a number that no sweep had before. -/
theorem Orderly.start {n : Nat} (h : Orderly n log) : Orderly (n + 1) (.started i :: log) :=
  ⟨fun j hj => Nat.lt_succ_of_lt (h.started j hj), h.listing, h.once⟩

/-- An occurrence by which nobody gets past its reads keeps the log in order. -/
theorem Orderly.did {n : Nat} (h : Orderly n log) (hpast : past (e :: log) = past log) :
    Orderly n (e :: log) := by
  refine ⟨hpast ▸ h.started, fun j hj => ?_, hpast ▸ h.once⟩
  obtain ⟨_, hlisted⟩ := h.listing j (hpast ▸ hj)
  exact exists_workspacesOf?_cons hlisted

/-- One more sweep gets past its reads, which it may do once and only after its workspaces were
listed. -/
theorem Orderly.advance {n : Nat} (h : Orderly n log) (hpast : past (e :: log) = i :: past log)
    (hi : i < n) (hnew : i ∉ past log)
    (hlisted : ∃ workspaces, workspacesOf? i (e :: log) = some workspaces) :
    Orderly n (e :: log) := by
  refine ⟨?_, ?_, hpast ▸ List.nodup_cons.mpr ⟨hnew, h.once⟩⟩
  · rw [hpast]
    exact List.forall_mem_cons.mpr ⟨hi, h.started⟩
  · rw [hpast]
    refine List.forall_mem_cons.mpr ⟨hlisted, fun j hj => ?_⟩
    obtain ⟨_, hold⟩ := h.listing j hj
    exact exists_workspacesOf?_cons hold

/-- The subjects in the metrics are those of the roster that the sweep has read that reported
last. -/
structure Gauged (log : OverlapLog) (subjects : Nat) : Prop where
  /-- As long as no sweep has reported the gauge shows zero. -/
  silent : lastReporter? log = none → subjects = 0
  /-- The sweep that reported last has read this roster. -/
  last : ∀ i, lastReporter? log = some i →
    ∃ members, Returned i members log ∧ subjects = (Roster.subjects members).length

/-- The gauge stays as it is until the next sweep reports. -/
theorem Gauged.cons {n : Nat} (h : Gauged log n) (he : reporter? e = none) :
    Gauged (e :: log) n := by
  have hlast : lastReporter? (e :: log) = lastReporter? log := by
    rw [lastReporter?_cons, he, Option.none_or]
  refine ⟨fun hnone => h.silent (hlast ▸ hnone), fun i hi => ?_⟩
  obtain ⟨members, hreturned, hn⟩ := h.last i (hlast ▸ hi)
  exact ⟨members, List.mem_cons_of_mem e hreturned, hn⟩

/-- A sweep reports the subjects of the roster that it has read. -/
theorem Gauged.report {members : List StaffMember} (h : Returned i members log)
    (counts : SweepCounts) :
    Gauged (.did i (.reported counts) :: log) (Roster.subjects members).length := by
  have hlast : lastReporter? (.did i (.reported counts) :: log) = some i := rfl
  refine ⟨fun hnone => ?_, fun j hj => ?_⟩
  · rw [hlast] at hnone
    cases hnone
  · obtain rfl := Option.some.inj (hlast.symm.trans hj)
    exact ⟨members, List.mem_cons_of_mem _ h, rfl⟩

end OverlapLog

open OverlapLog

/-- The metrics agree with what sweeps that have all ended did. -/
structure Settled (log : OverlapLog) (world : World) : Prop where
  /-- The updates are the writes that the remote control plane has counted. -/
  updated : world.metrics.updated = world.remote.writes.values.sum
  /-- Updates and failures are all workspaces that were listed for sweeps that got past their
  reads. -/
  listed : world.metrics.updated + world.metrics.failed = taken log
  /-- For each of the sweeps that got past their reads workspaces were listed. -/
  known : ∀ i ∈ past log, ∃ workspaces, workspacesOf? i log = some workspaces
  /-- No sweep gets past its reads twice, so none is counted twice. -/
  once : (past log).Nodup
  /-- Every sweep that got past its reads is counted, and no other. -/
  sweeps : world.metrics.sweeps = (past log).length
  /-- The subjects are those of the sweep that reported last. -/
  subjects : Gauged log world.metrics.subjects

/-! ### One sweep -/

namespace Leg

variable {i : Nat} {log : OverlapLog} {leg next : Leg Unit} {wall : Instant → Timestamp}
  {trigger : Trigger} {deadline now : Instant} {world later : World} {deed : Deed Unit}

/-- One if a sweep is past its reads and has not reported. -/
def underway : Leg Unit → Nat
  | choosing .. | writing .. => 1
  | _ => 0

/-- The bindings that a sweep has written and not reported. -/
def written : Leg Unit → Nat
  | choosing _ _ o | writing _ _ _ o => o.updated
  | _ => 0

/-- The workspaces that a sweep has taken on and not reported. -/
def share : Leg Unit → Nat
  | choosing _ left o => o.total + left.length
  | writing _ _ left o => o.total + (left.length + 1)
  | _ => 0

/-- The workspaces that are listed for a sweep that has not read the roster. -/
def offered : Leg Unit → Nat
  | reading _ workspaces => workspaces.length
  | _ => 0

/-- One if a sweep gets past its reads by a deed, which is when the roster is answered, and zero
otherwise. -/
def entering (deed : Deed Unit) : Nat := if (roster? deed).isSome then 1 else 0

/-- What a move of a sweep does to the metrics and to what is not in them yet. -/
structure Balance (world : World) (leg : Leg Unit) (deed : Deed Unit) (next : Leg Unit)
    (later : World) : Prop where
  /-- The sweeps: those in the metrics and the one under way. -/
  sweeps : later.metrics.sweeps + next.underway =
    world.metrics.sweeps + leg.underway + entering deed
  /-- The writes: those in the metrics and those that are not reported yet, against the counts of
  the control plane. -/
  updated : later.metrics.updated + next.written + world.remote.written =
    world.metrics.updated + leg.written + later.remote.written
  /-- The workspaces: those that were come to, and the share that the sweep has still to report. -/
  listed : later.metrics.updated + later.metrics.failed + next.share =
    world.metrics.updated + world.metrics.failed + leg.share + entering deed * leg.offered

/-- A sweep that only reads or looks at the clocks counts nothing. -/
theorem Balance.of_eq (hentering : entering deed = 0) (hunderway : next.underway = leg.underway)
    (hwritten : next.written = leg.written) (hshare : next.share = leg.share)
    (hmetrics : later.metrics = world.metrics)
    (hwrites : later.remote.writes = world.remote.writes) :
    Balance world leg deed next later where
  sweeps := by rw [hmetrics, hunderway, hentering, Nat.add_zero]
  updated := by rw [hmetrics, hwritten, InMemory.written, InMemory.written, hwrites]
  listed := by rw [hmetrics, hshare, hentering, Nat.zero_mul, Nat.add_zero]

/-- A write that succeeds is counted once by the control plane, and not at all by the metrics
yet. -/
theorem written_of_write {clock : Clock} {w : String} {subjects : List String}
    (h : world.answer (.writeBinding () w subjects) clock = (.ok (), later)) :
    later.metrics = world.metrics ∧ later.remote.written = world.remote.written + 1 := by
  rcases world.remote.writeBinding_cases w subjects clock.wall with ⟨e, hfails⟩ | hwrites
  · simp only [World.answer, hfails] at h
    cases h
  · simp only [World.answer, hwrites] at h
    cases h
    refine ⟨rfl, ?_⟩
    have hsum := world.remote.writes.sum_values_insert w (world.remote.writes.getD w 0 + 1)
    simp only [InMemory.written]
    omega

/-- Every move of a sweep keeps the balance: what it adds to the work it adds to the metrics or to
what it has yet to report. One case for each kind of move. -/
theorem Move.balance (h : Move (World.host wall) trigger deadline now world leg deed next later) :
    Balance world leg deed next later := by
  cases h with
  | connect h | connectFails h | list h | listFails h | readFails h | record h | recordFails h =>
    obtain ⟨-, rfl⟩ := Prod.mk.inj h
    exact .of_eq rfl rfl rfl rfl rfl rfl
  | giveUpConnect | giveUpList | giveUpRead | choose | time =>
    exact .of_eq rfl rfl rfl rfl rfl rfl
  | @read _ workspaces _ _ h =>
    obtain ⟨-, rfl⟩ := Prod.mk.inj h
    refine ⟨rfl, rfl, ?_⟩
    simp only [entering, roster?, Option.isSome_some, if_true, share, offered, Outcome.total,
      List.length_nil]
    omega
  | @abandon _ _ left o | @giveUpWrite _ _ left o =>
    refine .of_eq rfl rfl rfl ?_ rfl rfl
    simp only [share, Outcome.total_fail, List.length_cons]
    omega
  | @writeFails _ _ left o _ _ h =>
    obtain rfl := eq_of_write_fails h
    refine .of_eq rfl rfl rfl ?_ rfl rfl
    simp only [share, Outcome.total_fail]
    omega
  | @write basis ws left o _ h =>
    obtain ⟨hmetrics, hwritten⟩ := written_of_write h
    refine ⟨by rw [hmetrics]; rfl, ?_, ?_⟩
    · simp only [hmetrics, hwritten, written, Outcome.succeed]
      omega
    · have hnone : entering (.answered (.writeBinding basis.session ws.name
          (Roster.subjects basis.members)) (.ok ())) = 0 := rfl
      simp only [hmetrics, hnone, share, Outcome.total_succeed, Nat.zero_mul]
      omega
  | @report _ o =>
    -- What was not in the metrics comes to them, and nothing is left outside.
    have hleft : (reported trigger o : Leg Unit).underway = 0 ∧
        (reported trigger o : Leg Unit).written = 0 ∧
        (reported trigger o : Leg Unit).share = 0 := by
      cases trigger <;> exact ⟨rfl, rfl, rfl⟩
    obtain ⟨hunderway, hwritten, hshare⟩ := hleft
    have hnone : entering (.reported o.counts) = 0 := rfl
    refine ⟨?_, ?_, ?_⟩
    · rw [hunderway, hnone]
      rfl
    · rw [hwritten]
      rfl
    · rw [hshare, hnone]
      simp only [World.host, World.report, SweepMetrics.record, Outcome.counts, share,
        Outcome.total, List.length_nil]
      omega

/-- What the log tells of a sweep at a leg. -/
def Known (log : OverlapLog) (i : Nat) : Leg Unit → Prop
  | connecting | listing _ => i ∉ past log
  | reading _ workspaces => i ∉ past log ∧ workspacesOf? i log = some workspaces
  | choosing basis _ o | writing basis _ _ o =>
    Returned i basis.members log ∧ o.subjects = (Roster.subjects basis.members).length
  | _ => True

/-- What others do tells nothing of a sweep, so what was known of it is still known. -/
theorem Known.cons_of_other (h : leg.Known log i) {e : Occurrence Unit Outside}
    (hpast : past? e ≠ some i) (hlisting : listing? i e = none) : leg.Known (e :: log) i := by
  have hnot : i ∉ past log → i ∉ past (e :: log) :=
    fun hout hin => (mem_past_cons.mp hin).elim hpast hout
  cases leg with
  | connecting | listing => exact hnot h
  | reading => exact ⟨hnot h.1, (workspacesOf?_cons_of_none hlisting).trans h.2⟩
  | choosing | writing => exact ⟨List.mem_cons_of_mem e h.1, h.2⟩
  | recording | patching | ended => trivial

/-- What a sweep does tells nothing of another one. -/
theorem Known.did_other (h : leg.Known log i) {j : Nat} (hne : j ≠ i) (deed : Deed Unit) :
    leg.Known (.did j deed :: log) i := by
  refine h.cons_of_other (fun hpast => ?_) (listing?_did_of_ne hne deed)
  obtain ⟨_, -, hj⟩ := Option.map_eq_some_iff.mp hpast
  exact hne hj

/-- A move tells what is known at the next leg. -/
theorem Move.known (h : leg.Known log i)
    (hmove : Move (World.host wall) trigger deadline now world leg deed next later) :
    next.Known (.did i deed :: log) i := by
  cases hmove with
  | connect => exact h
  | list => exact ⟨h, by rw [workspacesOf?, List.findSome?_cons, listing?, if_pos rfl]⟩
  | read => exact ⟨List.mem_cons_self, rfl⟩
  | abandon | choose | write | writeFails | giveUpWrite =>
    exact ⟨List.mem_cons_of_mem _ h.1, h.2⟩
  | report => cases trigger <;> trivial
  | connectFails | listFails | readFails | giveUpConnect | giveUpList | giveUpRead | time | record
  | recordFails => trivial

/-- A sweep gets past its reads with the workspaces that were listed for it, and only once. -/
theorem Move.past (h : leg.Known log i)
    (hmove : Move (World.host wall) trigger deadline now world leg deed next later) :
    (OverlapLog.past (.did i deed :: log) = OverlapLog.past log ∧ entering deed = 0) ∨
      (OverlapLog.past (.did i deed :: log) = i :: OverlapLog.past log ∧ entering deed = 1 ∧
        i ∉ OverlapLog.past log ∧ ∃ workspaces,
          workspacesOf? i (.did i deed :: log) = some workspaces ∧
          workspaces.length = leg.offered) := by
  cases hmove with
  | read => exact .inr ⟨rfl, rfl, h.1, _, h.2, rfl⟩
  | connect | connectFails | list | listFails | readFails | giveUpConnect | giveUpList | giveUpRead
  | abandon | choose | write | writeFails | giveUpWrite | report | time | record | recordFails =>
    exact .inl ⟨rfl, rfl⟩

/-- A move of a sweep that was started keeps the order. -/
theorem Move.orderly {n : Nat} (horderly : Orderly n log) (hi : i < n) (h : leg.Known log i)
    (hmove : Move (World.host wall) trigger deadline now world leg deed next later) :
    Orderly n (.did i deed :: log) ∧
      (OverlapLog.past (.did i deed :: log)).length =
        (OverlapLog.past log).length + entering deed := by
  rcases hmove.past h with ⟨hpast, hentering⟩ | ⟨hpast, hentering, hnew, workspaces, hlisted, -⟩
  · exact ⟨horderly.did hpast, by rw [hpast, hentering, Nat.add_zero]⟩
  · refine ⟨horderly.advance hpast hi hnew ⟨workspaces, hlisted⟩, ?_⟩
    rw [hpast, hentering, List.length_cons]

/-- What was listed for the sweeps that got past their reads stays. -/
theorem Move.share_eq (h : leg.Known log i)
    (hmove : Move (World.host wall) trigger deadline now world leg deed next later) {j : Nat}
    (hj : j ∈ OverlapLog.past log) :
    OverlapLog.share (.did i deed :: log) j = OverlapLog.share log j := by
  cases hmove with
  | list =>
    -- The workspaces are listed for a sweep that has not got so far.
    have hne : i ≠ j := by
      rintro rfl
      exact h hj
    rw [OverlapLog.share, workspacesOf?_cons_of_none (listing?_did_of_ne hne _), OverlapLog.share]
  | connect | connectFails | listFails | read | readFails | giveUpConnect | giveUpList | giveUpRead
  | abandon | choose | write | writeFails | giveUpWrite | report | time | record | recordFails =>
    rfl

/-- The workspaces that are listed for a sweep are taken on when it gets past its reads. -/
theorem Move.taken (h : leg.Known log i)
    (hmove : Move (World.host wall) trigger deadline now world leg deed next later) :
    OverlapLog.taken (.did i deed :: log) =
      OverlapLog.taken log + entering deed * leg.offered := by
  have hold : (OverlapLog.past log).map (OverlapLog.share (.did i deed :: log)) =
      (OverlapLog.past log).map (OverlapLog.share log) :=
    List.map_congr_left fun j hj => hmove.share_eq h hj
  rw [OverlapLog.taken, OverlapLog.taken]
  rcases hmove.past h with ⟨hpast, hentering⟩ | ⟨hpast, hentering, -, workspaces, hlisted, hlength⟩
  · rw [hpast, hold, hentering, Nat.zero_mul, Nat.add_zero]
  · have hshare : OverlapLog.share (.did i deed :: log) i = leg.offered := by
      rw [OverlapLog.share, hlisted]
      exact hlength
    rw [hpast, List.map_cons, hold, List.sum_cons, hshare, hentering, Nat.one_mul, Nat.add_comm]

/-- Only a report changes the subjects in the metrics, to those of the roster that was read. -/
theorem Move.gauged (h : leg.Known log i) (hgauged : Gauged log world.metrics.subjects)
    (hmove : Move (World.host wall) trigger deadline now world leg deed next later) :
    Gauged (.did i deed :: log) later.metrics.subjects := by
  cases hmove with
  | connect h | connectFails h | list h | listFails h | read h | readFails h | record h
  | recordFails h =>
    obtain ⟨-, rfl⟩ := Prod.mk.inj h
    exact hgauged.cons rfl
  | giveUpConnect | giveUpList | giveUpRead | abandon | choose | giveUpWrite | time =>
    exact hgauged.cons rfl
  | write h =>
    rw [(written_of_write h).1]
    exact hgauged.cons rfl
  | writeFails h =>
    obtain rfl := eq_of_write_fails h
    exact hgauged.cons rfl
  | report =>
    obtain ⟨hreturned, hsubjects⟩ := h
    show Gauged _ (Outcome.subjects _)
    rw [hsubjects]
    exact .report hreturned _

end Leg

/-! ### All of them -/

/-- A sweep with what it was started for. -/
structure Journey where
  /-- What the sweep was started for. -/
  trigger : Trigger
  /-- When it has to be through with the workspaces. -/
  deadline : Instant
  /-- Where the sweep is by now. -/
  leg : Leg Unit

/-- What is left of a sweep, as the activity that waits in the overlap. -/
def Journey.rest (j : Journey) : Activity Unit (Except Failure Action) :=
  j.leg.rest j.trigger j.deadline

/-- The metrics, together with what the sweeps under way have not reported, are what was done. -/
structure Booked (journeys : List Journey) (s : Overlap) : Prop where
  /-- What is left of the sweeps, each on its leg. -/
  activities : s.activities = journeys.map Journey.rest
  /-- The log tells of each of them what it needs to know. -/
  known : ∀ (i : Nat) (j : Journey), journeys[i]? = some j → j.leg.Known s.log i
  /-- Those that got past their reads did so in order. -/
  orderly : Orderly journeys.length s.log
  /-- The sweeps in the metrics and those under way are the ones that got past their reads. -/
  sweeps : s.world.metrics.sweeps + (journeys.map (·.leg.underway)).sum = (past s.log).length
  /-- The writes in the metrics and those not reported yet are the ones that the control plane has
  counted. -/
  updated : s.world.metrics.updated + (journeys.map (·.leg.written)).sum = s.world.remote.written
  /-- The workspaces in the metrics and those not reported yet are the ones that were listed. -/
  listed : s.world.metrics.updated + s.world.metrics.failed + (journeys.map (·.leg.share)).sum =
    taken s.log
  /-- The gauge of the subjects shows the sweep that reported last. -/
  subjects : Gauged s.log s.world.metrics.subjects

namespace Booked

variable {journeys : List Journey} {s : Overlap} {wall : Instant → Timestamp} {world : World}

/-- Nothing is booked at first, and with empty metrics and no writes the books are balanced. -/
theorem initial (hmetrics : world.metrics = {}) (hwrites : world.remote.writes = SortedMap.empty) :
    Booked [] { world } where
  activities := rfl
  known _ _ hj := absurd hj (by rw [List.getElem?_nil]; exact nofun)
  orderly :=
    ⟨fun _ hi => absurd hi List.not_mem_nil, fun _ hi => absurd hi List.not_mem_nil, List.nodup_nil⟩
  sweeps := by
    rw [hmetrics]
    rfl
  updated := by
    rw [hmetrics, InMemory.written, hwrites]
    rfl
  listed := by
    rw [hmetrics]
    rfl
  subjects := by
    rw [hmetrics]
    exact ⟨fun _ => rfl, fun i hi => by cases hi⟩

/-- A sweep is started: its journey begins, and it has nothing to report yet. -/
theorem start (h : Booked journeys s) (trigger : Trigger) (deadline : Instant) :
    Booked (journeys ++ [⟨trigger, deadline, .connecting⟩])
      (s.start (reconcile trigger deadline)) where
  activities := by
    rw [Interplay.start, h.activities, List.map_append]
    rfl
  known i j hj := by
    rcases Nat.lt_or_ge i journeys.length with hi | hi
    · rw [List.getElem?_append_left hi] at hj
      exact (h.known i j hj).cons_of_other nofun rfl
    · rw [List.getElem?_append_right hi, List.getElem?_singleton] at hj
      split at hj
      · obtain rfl := Option.some.inj hj
        exact fun hin => absurd (h.orderly.started i hin) (Nat.not_lt_of_le hi)
      · cases hj
  orderly := by
    rw [List.length_append]
    exact h.orderly.start
  sweeps := by
    rw [List.map_append, List.sum_append]
    exact h.sweeps
  updated := by
    rw [List.map_append, List.sum_append]
    exact h.updated
  listed := by
    rw [List.map_append, List.sum_append]
    exact h.listed
  subjects := h.subjects.cons rfl

/-- Others change something that does not count for the books, such as the roster or the faults. -/
theorem change (h : Booked journeys s) {kind : Outside}
    (hallows : (counted wall).MayChange kind s.world world) :
    Booked journeys (s.change kind world) where
  activities := h.activities
  known i j hj := (h.known i j hj).cons_of_other nofun rfl
  orderly := h.orderly.did rfl
  sweeps := by
    rw [Interplay.change, hallows.1]
    exact h.sweeps
  updated := by
    rw [Interplay.change, hallows.1, InMemory.written, hallows.2]
    exact h.updated
  listed := by
    rw [Interplay.change, hallows.1]
    exact h.listed
  subjects := by
    rw [Interplay.change, hallows.1]
    exact h.subjects.cons rfl

/-- The log goes on to tell of each sweep when one of them takes a turn. -/
theorem known_set (h : Booked journeys s) {i : Nat} {j : Journey} {deed : Deed Unit}
    (hj : j.leg.Known (.did i deed :: s.log) i) (k : Nat) (other : Journey)
    (hk : (journeys.set i j)[k]? = some other) : other.leg.Known (.did i deed :: s.log) k := by
  rw [List.getElem?_set] at hk
  split at hk
  · rename_i hik
    subst hik
    split at hk
    · obtain rfl := Option.some.inj hk
      exact hj
    · cases hk
  · rename_i hik
    exact (h.known k other hk).did_other hik deed

/-- A sweep makes a move. This is where the balance of a single move becomes one of all journeys:
every other summand stays as it is. -/
theorem move (h : Booked journeys s) {i : Nat} {j : Journey} (hj : journeys[i]? = some j)
    {now : Instant} {deed : Deed Unit} {next : Leg Unit} {later : World}
    (hmove : Leg.Move (World.host wall) j.trigger j.deadline now s.world j.leg deed next later) :
    let moved : Journey := { j with leg := next }
    Booked (journeys.set i moved) {
      world := later
      activities := s.activities.set i moved.rest
      log := .did i deed :: s.log } := by
  intro moved
  have hknown := h.known i j hj
  have hi : i < journeys.length := (List.getElem?_eq_some_iff.mp hj).1
  have hbalance := hmove.balance
  obtain ⟨horderly, hpast⟩ := hmove.orderly h.orderly hi hknown
  have hset (f : Leg Unit → Nat) : ((journeys.set i moved).map fun j => f j.leg).sum + f j.leg =
      (journeys.map fun j => f j.leg).sum + f next :=
    sum_map_set (fun j => f j.leg) hj moved
  exact {
    activities := by
      rw [h.activities, List.map_set]
    known := h.known_set (hmove.known hknown)
    orderly := by
      rw [List.length_set]
      exact horderly
    sweeps := by
      have hsum := hset Leg.underway
      have hold := h.sweeps
      have hnew := hbalance.sweeps
      show later.metrics.sweeps + _ = (past (.did i deed :: s.log)).length
      omega
    updated := by
      have hsum := hset Leg.written
      have hold := h.updated
      have hnew := hbalance.updated
      show later.metrics.updated + _ = later.remote.written
      omega
    listed := by
      have hsum := hset Leg.share
      have hold := h.listed
      have hnew := hbalance.listed
      have htaken := hmove.taken hknown
      show later.metrics.updated + later.metrics.failed + _ = taken (.did i deed :: s.log)
      omega
    subjects := hmove.gauged hknown h.subjects }

/-- A sweep takes a turn, which is a move or nothing at all, and the books are kept. -/
theorem turn (h : Booked journeys s) (i : Nat) (now : Instant) (inTime : Bool) :
    ∃ others, Booked others (s.turn (World.host wall) i now inTime) := by
  rcases Interplay.turn_cases (World.host wall) i now inTime s with
    hsame | ⟨a, b, deed, later, ha, hturn, hnext⟩
  · rw [hsame]
    exact ⟨journeys, h⟩
  · rw [h.activities, List.getElem?_map] at ha
    obtain ⟨j, hj, rfl⟩ := Option.map_eq_some_iff.mp ha
    obtain ⟨next, rfl, hmove⟩ := Leg.move_of_turn hturn
    rw [hnext]
    exact ⟨_, h.move hj hmove⟩

/-- Once all sweeps have ended, the metrics are all there is. -/
theorem settled (h : Booked journeys s)
    (hended : ∀ a ∈ s.activities, ∃ result, a = .done result) : Settled s.log s.world := by
  have hnothing (f : Leg Unit → Nat) (hf : ∀ result, f (.ended result) = 0) :
      (journeys.map fun j => f j.leg).sum = 0 := by
    refine List.sum_eq_zero_iff_forall_eq_nat.mpr fun n hn => ?_
    obtain ⟨j, hj, rfl⟩ := List.mem_map.mp hn
    obtain ⟨result, hresult⟩ := hended j.rest (h.activities ▸ List.mem_map_of_mem hj)
    rw [Leg.eq_ended_of_rest hresult]
    exact hf result
  have hsweeps := h.sweeps
  have hupdated := h.updated
  have hlisted := h.listed
  rw [hnothing Leg.underway fun _ => rfl] at hsweeps
  rw [hnothing Leg.written fun _ => rfl] at hupdated
  rw [hnothing Leg.share fun _ => rfl] at hlisted
  exact ⟨hupdated, hlisted, h.orderly.listing, h.orderly.once, hsweeps, h.subjects⟩

end Booked

/-- The books are kept from the start, when nothing has been counted before: each start, turn and
change keeps them. -/
theorem booked {wall : Instant → Timestamp} {world : World} {s : Overlap}
    (hmetrics : world.metrics = {}) (hwrites : world.remote.writes = SortedMap.empty)
    (h : Interplay.Reachable (counted wall) world s) : ∃ journeys, Booked journeys s := by
  induction h with
  | initial => exact ⟨[], .initial hmetrics hwrites⟩
  | next _ step ih =>
    obtain ⟨journeys, hbooked⟩ := ih
    cases step with
    | start ha =>
      obtain ⟨trigger, deadline, rfl⟩ := ha
      exact ⟨_, hbooked.start trigger deadline⟩
    | turn i now inTime => exact hbooked.turn i now inTime
    | change hchange => exact ⟨journeys, hbooked.change hchange⟩

/-- Whenever no sweep is under way, the metrics agree with what all the sweeps so far have done,
whatever else was changed, however the sweeps overlapped, and whichever of their calls failed or
were given up. -/
theorem metrics_conserve_work {wall : Instant → Timestamp} {world : World} {s : Overlap}
    (hmetrics : world.metrics = {}) (hwrites : world.remote.writes = SortedMap.empty)
    (h : Interplay.Reachable (counted wall) world s)
    (hended : ∀ a ∈ s.activities, ∃ result, a = .done result) : Settled s.log s.world := by
  obtain ⟨journeys, hbooked⟩ := booked hmetrics hwrites h
  exact hbooked.settled hended

/-! ### Three sweeps -/

/-- A workspace as it is listed: ready, managed, and nobody's. -/
def readyAt (name : String) : String × WorkspaceInfo := (name, ⟨name, .ready, none, true, none⟩)

/-- One of two workspaces fails, and the members cannot be patched. -/
def faulty : World where
  remote := {
    sourceNamespace := "maintainerd"
    workspaces := .ofList [readyAt "argo", readyAt "flux"]
    failing := .ofList ["flux"] }
  staff := { twoMembers.staff with
    patchFault := some ⟨"Failure", "read-only", "Forbidden", 403⟩ }

/-- A sweep for one of the members has read what it starts from. -/
def firstHasRead : Overlap :=
  Interplay.run (World.host stillCalendar) 0 0 3
    (Interplay.start { world := faulty } (reconcile (.staffMember bob) 1000))

/-- Then this member is removed, and there is one more workspace. -/
def firstIsOutdated : Overlap :=
  let world := firstHasRead.world
  firstHasRead.change .elsewhere { world with
    remote := world.remote.addWorkspace "zot" .ready true
    staff := { world.staff with objects := world.staff.objects.erase bob } }

/-- A second sweep ends before the first one goes on, and a third one gives up at once. -/
def threeSweeps : Overlap :=
  Interplay.turn (World.host stillCalendar) 2 0 false
    ((Interplay.run (World.host stillCalendar) 0 0 7
      (Interplay.run (World.host stillCalendar) 1 0 10
        (firstIsOutdated.start (reconcile .workspaces 1000)))).start (reconcile .workspaces 1000))

/-- The three sweeps come about by starts, turns and a change by others. -/
theorem reachable_threeSweeps : Interplay.Reachable (counted stillCalendar) faulty threeSweeps := by
  have hsweep (trigger : Trigger) : (counted stillCalendar).MayStart (reconcile trigger 1000) :=
    ⟨_, _, rfl⟩
  have hread : Interplay.Reachable (counted stillCalendar) faulty firstHasRead :=
    (Interplay.Reachable.initial.next (.start _ (hsweep _))).run 0 0 3
  have houtdated : Interplay.Reachable (counted stillCalendar) faulty firstIsOutdated :=
    hread.next (.change _ ⟨rfl, rfl⟩)
  have hended := ((houtdated.next (.start _ (hsweep .workspaces))).run 1 0 10).run 0 0 7
  exact (hended.next (.start _ (hsweep .workspaces))).next (.turn _ 2 0 false)

/-- The first sweep reports last, for two of the five workspaces and with the two subjects that it
has read, although it cannot record its outcome. The third one is not counted. -/
theorem three_sweeps_are_settled :
    threeSweeps.activities.length = 3 ∧
      threeSweeps.world.metrics = ⟨2, 3, 2, 2⟩ ∧ past threeSweeps.log = [1, 0] ∧
      Settled threeSweeps.log threeSweeps.world := by
  have hended : threeSweeps.activities = [
      .done (.error (.status (.refused ⟨"Failure", "read-only", "Forbidden", 403⟩))),
      .done (.error (.workspaces 3
        [("flux", .remote (InMemory.unavailable "workspace flux is unavailable"))])),
      .done (.error .timeout)] := rfl
  refine ⟨rfl, by decide, by decide,
    metrics_conserve_work rfl rfl reachable_threeSweeps fun a ha => ?_⟩
  rw [hended] at ha
  simp only [List.mem_cons, List.not_mem_nil, or_false] at ha
  rcases ha with rfl | rfl | rfl <;> exact ⟨_, rfl⟩

end Sweep

end WorkspaceAccess
