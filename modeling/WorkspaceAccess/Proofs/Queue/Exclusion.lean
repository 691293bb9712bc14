import Mathlib.Data.List.Nodup
import WorkspaceAccess.Proofs.Queue.History

/-!
# One Reconcile of a Key at a Time

The bookkeeping of a controller holds the same keys in several places: the waiting ones in a list
and in a set, the active ones in a set and among the reconciles in flight. It is safe because these
places agree, and each operation relies on that: a key is pushed without a look at the list, since
the set says whether it waits; it is started without a look at the workers, since a waiting key has
no reconcile in flight. `Consistent` says how the places of the bookkeeping agree, `Orderly` how
they agree with the reconciles.

What is in flight are the reconciles that run and those that ended and were not taken up yet: a key
stays active until its end is taken up. Between the end of a reconcile and that moment the key must
not be started again, and it is not, because it counts as in flight (`Controller.inFlightKeys`).

Both properties are about some parts of a state only. `SameKeys` and `Orderly.of_frame` say which,
so that recording a retry, setting an alarm or counting in the metrics keeps them for nothing.

## Main results

* `Consistent.push`, `Consistent.next`, `Consistent.finish`: the operations of the bookkeeping keep
  its places in agreement.
* `Orderly.push`, `Orderly.start`, `Orderly.endRun`, `Orderly.complete`: what happens to a key keeps
  the controller orderly, one lemma for each kind of event.
* `History.orderly`: every controller with a history is orderly, by induction on the history.
* `no_key_is_reconciled_twice_at_once`: whatever a controller can come to is orderly, for any number
  of workers, and no two reconciles that run are of one key.
* `busy_is_orderly`: a controller in which one key is active and dirty while another one waits.
-/

namespace WorkspaceAccess

variable {κ ε : Type} [KeyOrder κ]

/-! ### The bookkeeping -/

namespace Bookkeeping

variable {b d : Bookkeeping κ} {k : κ}

/-- The places in which a bookkeeping holds keys agree. -/
structure Consistent (b : Bookkeeping κ) : Prop where
  /-- No key waits twice, however often it was enqueued. -/
  nodup : b.ready.Nodup
  /-- The set of the waiting keys is that of the keys in the list. -/
  queued_iff (k : κ) : b.queued.contains k = true ↔ k ∈ b.ready
  /-- No key that waits has a reconcile in flight. -/
  disjoint {k : κ} : k ∈ b.ready → b.active.contains k = false
  /-- A key is dirty only while a reconcile of it is in flight. -/
  active_of_dirty {k : κ} : b.dirty.contains k = true → b.active.contains k = true

/-- Two bookkeepings have the same keys waiting, active and dirty. -/
structure SameKeys (b d : Bookkeeping κ) : Prop where
  /-- The same keys wait, in the same order. -/
  ready : d.ready = b.ready
  /-- The sets of the waiting keys are the same. -/
  queued : d.queued = b.queued
  /-- The same keys have reconciles in flight. -/
  active : d.active = b.active
  /-- The same keys have to be reconciled again. -/
  dirty : d.dirty = b.dirty

/-- A bookkeeping has the same keys as itself, which is what a step that records nothing needs. -/
theorem SameKeys.refl (b : Bookkeeping κ) : b.SameKeys b := ⟨rfl, rfl, rfl, rfl⟩

/-- Steps that leave the keys where they are may follow one another. -/
theorem SameKeys.trans {e : Bookkeeping κ} (h : b.SameKeys d) (h' : d.SameKeys e) :
    b.SameKeys e :=
  ⟨h'.ready.trans h.ready, h'.queued.trans h.queued, h'.active.trans h.active,
    h'.dirty.trans h.dirty⟩

/-- Recording a retry leaves the keys where they are. -/
theorem SameKeys.of_schedule? {time : Instant} (h : b.schedule? k time = some d) :
    b.SameKeys d := by
  rw [schedule?] at h
  split at h
  · split at h
    · cases h
    · cases h
      exact ⟨rfl, rfl, rfl, rfl⟩
  · cases h
    exact ⟨rfl, rfl, rfl, rfl⟩

namespace Consistent

/-- Agreement is about the keys that are waiting, active and dirty, and about nothing else. -/
theorem of_sameKeys (h : b.Consistent) (hd : b.SameKeys d) : d.Consistent := by
  obtain ⟨hready, hqueued, hactive, hdirty⟩ := hd
  refine ⟨?_, ?_, ?_, ?_⟩
  · rw [hready]
    exact h.nodup
  · rw [hready, hqueued]
    exact h.queued_iff
  · rw [hready, hactive]
    exact h.disjoint
  · rw [hdirty, hactive]
    exact h.active_of_dirty

/-- No active key waits, so that no key can be started while a reconcile of it is in flight. -/
theorem not_mem_ready (h : b.Consistent) (hk : b.active.contains k = true) : k ∉ b.ready := by
  intro hready
  have hidle := h.disjoint hready
  rw [hk] at hidle
  cases hidle

/-- Places that agree still do when a key is pushed. -/
theorem push (h : b.Consistent) (k : κ) : (b.push k).Consistent := by
  rw [Bookkeeping.push]
  split
  · rename_i hactive
    refine ⟨h.nodup, h.queued_iff, h.disjoint, ?_⟩
    intro j hj
    rcases SortedSet.contains_add_iff.mp hj with rfl | hj
    · exact hactive
    · exact h.active_of_dirty hj
  split
  · exact h
  · rename_i hactive hqueued
    have hready : k ∉ b.ready := fun hk => hqueued ((h.queued_iff k).mpr hk)
    refine ⟨?_, ?_, ?_, h.active_of_dirty⟩
    · rw [List.nodup_append]
      refine ⟨h.nodup, List.nodup_singleton k, ?_⟩
      intro j hj i hi hji
      rw [List.mem_singleton] at hi
      exact hready (hi ▸ hji ▸ hj)
    · intro j
      rw [SortedSet.contains_add_iff, h.queued_iff, List.mem_append, List.mem_singleton, or_comm]
    · intro j hj
      rcases List.mem_append.mp hj with hj | hj
      · exact h.disjoint hj
      · rw [List.mem_singleton.mp hj]
        exact Bool.eq_false_iff.mpr hactive

/-- Places that agree still do when the first waiting key becomes active. -/
theorem next (h : b.Consistent) (hd : b.next? = some (k, d)) : d.Consistent := by
  obtain ⟨rest, hready, rfl⟩ := next?_eq_some hd
  have hnodup := h.nodup
  rw [hready] at hnodup
  obtain ⟨hk, hrest⟩ := List.nodup_cons.mp hnodup
  refine ⟨hrest, ?_, ?_, ?_⟩
  · intro j
    rw [SortedMap.contains_erase_iff, h.queued_iff, hready, List.mem_cons]
    constructor
    · rintro ⟨hne, rfl | hj⟩
      · exact absurd rfl hne
      · exact hj
    · intro hj
      exact ⟨fun hjk => hk (hjk ▸ hj), .inr hj⟩
  · intro j hj
    have hidle : b.active.contains j = false := h.disjoint (by simp [hready, hj])
    rw [Bool.eq_false_iff, Ne, SortedSet.contains_add_iff]
    rintro (rfl | hactive)
    · exact hk hj
    · rw [hidle] at hactive
      cases hactive
  · intro j hj
    exact SortedSet.contains_add_iff.mpr (.inr (h.active_of_dirty hj))

/-- Places that agree still do when the reconcile of a key is over. -/
theorem finish (h : b.Consistent) (k : κ) : (b.finish k).Consistent := by
  have hidle : Consistent { b with active := b.active.erase k, dirty := b.dirty.erase k } := by
    refine ⟨h.nodup, h.queued_iff, ?_, ?_⟩
    · intro j hj
      rw [Bool.eq_false_iff, Ne, SortedMap.contains_erase_iff, h.disjoint hj]
      simp
    · intro j hj
      obtain ⟨hne, hdirty⟩ := SortedMap.contains_erase_iff.mp hj
      exact SortedMap.contains_erase_iff.mpr ⟨hne, h.active_of_dirty hdirty⟩
  unfold Bookkeeping.finish
  simp only
  split
  · exact hidle.push k
  · exact hidle

end Consistent

end Bookkeeping

/-! ### The reconciles in flight -/

namespace Controller

variable {c d : Controller κ ε}

/-- The keys of the reconciles in flight, each as often as there are reconciles of it. -/
def inFlightKeys (c : Controller κ ε) : List κ := c.running.map (·.key) ++ c.ended.map (·.1)

/-- There is a key for every reconcile in flight, so that the bound on the reconciles is one on
keys. -/
theorem length_inFlightKeys (c : Controller κ ε) : c.inFlightKeys.length = c.inFlight := by
  simp [inFlightKeys, inFlight]

/-- The keys of a controller are held apart: those that wait, those that are active, and those of
the reconciles in flight, of which there are at most so many as there are workers. -/
structure Orderly (workers : Nat) (c : Controller κ ε) : Prop where
  /-- The bookkeeping of its keys agrees with itself. -/
  book : c.book.Consistent
  /-- No two reconciles of one key are in flight. -/
  nodup : c.inFlightKeys.Nodup
  /-- As long as the controller goes on, the active keys are those of the reconciles in flight. -/
  active_iff : c.isOver = false →
    ∀ k, c.book.active.contains k = true ↔ k ∈ c.inFlightKeys
  /-- There are not more reconciles in flight than workers. -/
  bound : c.inFlight ≤ max workers 1
  /-- Nothing runs once the controller is over, collapsed or stopped. -/
  silent : c.isOver = true → c.running = []

/-- The first reconcile of a key in flight ends. -/
theorem endRun_spec {run : Run κ} (now : Instant) (outcome : Outcome ε) (hrun : run ∈ c.running) :
    ∃ other before after, other.key = run.key ∧ c.running = before ++ other :: after ∧
      (c.endRun now run.key outcome).running = before ++ after ∧
      (c.endRun now run.key outcome).ended = c.ended ++ [(run.key, outcome)] := by
  have hself : (KeyOrder.compare run.key run.key == .eq) = true := by
    rw [KeyOrder.compare_self]
    rfl
  obtain ⟨other, before, after, -, hother, hsplit, herase⟩ := List.exists_of_eraseP
    (p := fun r : Run κ => KeyOrder.compare r.key run.key == .eq) hrun hself
  have hkey : other.key = run.key := KeyOrder.compare_eq_iff.mp (eq_of_beq hother)
  refine ⟨other, before, after, hkey, hsplit, ?_⟩
  rw [endRun]
  split
  · rename_i hnone
    exact absurd hself (List.find?_eq_none.mp hnone run hrun)
  · exact ⟨herase, rfl⟩

/-- A reconcile that ends is the last one whose end is to be taken up. -/
theorem ended_endRun {run : Run κ} (now : Instant) (outcome : Outcome ε)
    (hrun : run ∈ c.running) :
    (c.endRun now run.key outcome).ended = c.ended ++ [(run.key, outcome)] := by
  obtain ⟨_, _, _, -, -, -, hended⟩ := endRun_spec now outcome hrun
  exact hended

/-- A reconcile that ends is in flight until its end is taken up. -/
theorem inFlightKeys_endRun {run : Run κ} (now : Instant) (outcome : Outcome ε)
    (hrun : run ∈ c.running) :
    (c.endRun now run.key outcome).inFlightKeys.Perm c.inFlightKeys := by
  obtain ⟨other, before, after, hkey, hsplit, hrunning, hended⟩ := endRun_spec now outcome hrun
  rw [inFlightKeys, inFlightKeys, hrunning, hended, hsplit]
  simp only [List.map_append, List.map_cons, List.map_nil, hkey, List.append_assoc]
  refine List.Perm.append_left _ ?_
  rw [List.cons_append, ← List.append_assoc]
  exact List.perm_append_singleton _ _

/-- A retry for later leaves the waiting, active and dirty keys alone. -/
theorem sameKeys_retryLater (c : Controller κ ε) (now : Instant) (k : κ) (delay : Span) :
    c.book.SameKeys (c.retryLater now k delay).book := by
  unfold retryLater
  simp only
  split
  · exact .refl _
  · rename_i hschedule
    exact .of_schedule? hschedule

/-- Drawing the consequences of an outcome leaves the waiting, active and dirty keys alone. -/
theorem sameKeys_weigh (policy : QueuePolicy ε) (now : Instant) (c : Controller κ ε) (k : κ)
    (outcome : Outcome ε) : c.book.SameKeys (c.weigh policy now k outcome).book := by
  have hsettle : c.book.SameKeys (c.book.settle k) := ⟨rfl, rfl, rfl, rfl⟩
  have hfail : c.book.SameKeys (c.book.fail k) := ⟨rfl, rfl, rfl, rfl⟩
  unfold weigh
  split
  · exact hsettle
  · exact hsettle.trans (sameKeys_retryLater { c with book := c.book.settle k } now k _)
  · exact hfail.trans (sameKeys_retryLater { c with book := c.book.fail k } now k _)
  · exact hfail.trans (sameKeys_retryLater { c with book := c.book.fail k } now k _)

namespace Orderly

variable {workers : Nat}

/-- Order is about the keys, the reconciles in flight and the stage, and about nothing else:
whatever changes only the retries, the alarms or the metrics keeps it. -/
theorem of_frame (h : c.Orderly workers) (hbook : c.book.SameKeys d.book)
    (hrunning : d.running = c.running) (hended : d.ended = c.ended)
    (hstage : d.stage = c.stage) : d.Orderly workers := by
  have hkeys : d.inFlightKeys = c.inFlightKeys := by
    rw [inFlightKeys, inFlightKeys, hrunning, hended]
  have hover : d.isOver = c.isOver := by rw [isOver, isOver, hstage]
  refine ⟨h.book.of_sameKeys hbook, ?_, ?_, ?_, ?_⟩
  · rw [hkeys]
    exact h.nodup
  · rw [hkeys, hover, hbook.active]
    exact h.active_iff
  · rw [inFlight, hrunning, hended]
    exact h.bound
  · rw [hover, hrunning]
    exact h.silent

/-- The key of a reconcile that runs is active, so that it does not wait. -/
theorem active_of_running {run : Run κ} (h : c.Orderly workers) (hrun : run ∈ c.running) :
    c.book.active.contains run.key = true := by
  have hgoes : c.isOver = false := by
    rw [Bool.eq_false_iff]
    intro hstopped
    rw [h.silent hstopped] at hrun
    cases hrun
  rw [h.active_iff hgoes, inFlightKeys, List.mem_append]
  exact .inl (List.mem_map_of_mem hrun)

/-- A key is pushed to be reconciled. It waits once, or becomes dirty, and order is kept. -/
theorem push (h : c.Orderly workers) (k : κ) :
    Orderly workers { c with book := c.book.push k } := by
  refine ⟨h.book.push k, h.nodup, ?_, h.bound, h.silent⟩
  rw [Bookkeeping.active_push]
  exact h.active_iff

/-- Order is kept when a reconcile ends: its key stays active until the end is taken up. -/
theorem endRun {run : Run κ} (h : c.Orderly workers) (now : Instant) (outcome : Outcome ε)
    (hrun : run ∈ c.running) : (c.endRun now run.key outcome).Orderly workers := by
  have hperm := inFlightKeys_endRun now outcome hrun
  have hframe : (c.endRun now run.key outcome).book = c.book ∧
      (c.endRun now run.key outcome).stage = c.stage := by
    rw [Controller.endRun]
    split <;> exact ⟨rfl, rfl⟩
  obtain ⟨hbook, hstage⟩ := hframe
  have hover : (c.endRun now run.key outcome).isOver = c.isOver := by
    rw [isOver, isOver, hstage]
  refine ⟨?_, hperm.nodup_iff.mpr h.nodup, ?_, ?_, ?_⟩
  · rw [hbook]
    exact h.book
  · intro hgoes k
    rw [hbook, hperm.mem_iff]
    exact h.active_iff (hover ▸ hgoes) k
  · rw [← length_inFlightKeys, hperm.length_eq, length_inFlightKeys]
    exact h.bound
  · intro hstopped
    have hrunning := h.silent (hover ▸ hstopped)
    rw [hrunning] at hrun
    cases hrun

/-- Order is kept when the end of a reconcile is taken up: only now is its key no longer active. -/
theorem complete {k : κ} {outcome : Outcome ε} {rest : List (κ × Outcome ε)}
    (h : c.Orderly workers) (policy : QueuePolicy ε) (now : Instant)
    (hstage : c.stage = .serving) (hended : c.ended = (k, outcome) :: rest) :
    Orderly workers ({ c with ended := rest }.complete policy now k outcome) := by
  have hsame := sameKeys_weigh policy now { c with ended := rest } k outcome
  obtain ⟨-, hrest, hserving, hrunning⟩ :=
    complete_frame policy now { c with ended := rest } k outcome
  have hgoes : c.isOver = false := by simp [isOver, hstage]
  have hsplit : c.inFlightKeys = c.running.map (·.key) ++ k :: rest.map (·.1) := by
    rw [inFlightKeys, hended]
    rfl
  have hnodup : (k :: (c.running.map (·.key) ++ rest.map (·.1))).Nodup := by
    have hflight := h.nodup
    rw [hsplit] at hflight
    exact List.perm_middle.nodup_iff.mp hflight
  obtain ⟨hk, hnodup⟩ := List.nodup_cons.mp hnodup
  have hkeys : ({ c with ended := rest }.complete policy now k outcome).inFlightKeys =
      c.running.map (·.key) ++ rest.map (·.1) := by
    rw [inFlightKeys, hrunning, hrest]
  refine ⟨(h.book.of_sameKeys hsame).finish k, ?_, ?_, ?_, ?_⟩
  · rw [hkeys]
    exact hnodup
  · intro _ j
    have hactive := h.active_iff hgoes j
    rw [hsplit] at hactive
    show (Bookkeeping.finish _ k).active.contains j = true ↔ _
    rw [Bookkeeping.active_finish, SortedMap.contains_erase_iff, hsame.active, hactive, hkeys,
      List.perm_middle.mem_iff, List.mem_cons]
    constructor
    · rintro ⟨hne, rfl | hj⟩
      · exact absurd rfl hne
      · exact hj
    · intro hj
      exact ⟨fun hjk => hk (hjk ▸ hj), .inr hj⟩
  · have hbound := h.bound
    rw [inFlight, hended, List.length_cons] at hbound
    rw [inFlight, hrunning, hrest]
    show c.running.length + rest.length ≤ _
    omega
  · intro hstopped
    rw [isOver, hserving] at hstopped
    simp [hstage] at hstopped

/-- Order is kept when a reconcile is started: a waiting key has none in flight. -/
theorem start {k : κ} {book : Bookkeeping κ} {run : Run κ} (h : c.Orderly workers)
    (hrun : run.key = k) (hstage : c.stage = .serving) (hnext : c.book.next? = some (k, book))
    (hroom : c.inFlight < max workers 1) : (c.start run book).Orderly workers := by
  obtain ⟨rest, hready, hbook⟩ := Bookkeeping.next?_eq_some hnext
  have hgoes : c.isOver = false := by simp [isOver, hstage]
  have hk : k ∉ c.inFlightKeys := by
    rw [← h.active_iff hgoes, h.book.disjoint (by simp [hready])]
    simp
  have hperm : (c.start run book).inFlightKeys.Perm (k :: c.inFlightKeys) := by
    rw [inFlightKeys, inFlightKeys, ← hrun]
    simp only [Controller.start, List.map_append, List.map_cons, List.map_nil,
      List.append_assoc, List.cons_append, List.nil_append]
    exact List.perm_middle
  refine ⟨h.book.next hnext, ?_, ?_, ?_, ?_⟩
  · exact hperm.nodup_iff.mpr (List.nodup_cons.mpr ⟨hk, h.nodup⟩)
  · intro _ j
    rw [hperm.mem_iff, List.mem_cons, ← h.active_iff hgoes]
    show book.active.contains j = true ↔ _
    rw [hbook]
    exact SortedSet.contains_add_iff
  · simp only [inFlight, Controller.start, List.length_append, List.length_singleton] at hroom ⊢
    omega
  · intro hstopped
    simp [isOver, Controller.start, hstage] at hstopped

end Orderly

end Controller

/-- Every controller with a history is orderly, by induction on the history. -/
theorem History.orderly {policy : QueuePolicy ε} {c : Controller κ ε} {log : QueueLog κ ε}
    (h : History policy c log) : c.Orderly policy.workers := by
  induction h with
  | initial =>
    refine ⟨⟨List.nodup_nil, ?_, ?_, ?_⟩, List.nodup_nil, ?_, Nat.zero_le _, fun _ => rfl⟩
    all_goals simp [Controller.initial, Controller.inFlightKeys, SortedMap.contains]
  | enqueue _ _ ih | begin _ ih | signal _ ih | roll _ _ _ ih | postpone _ _ _ _ _ ih
  | ignore _ _ _ _ ih => exact ih.of_frame (.refl _) rfl rfl rfl
  | finish now outcome hrun _ ih => exact ih.endRun now outcome hrun
  | complete now hstage hended _ ih => exact ih.complete policy now hstage hended
  | @retry c _ _ _ _ k _ _ _ _ _ ih =>
    have herased : Controller.Orderly policy.workers
        { c with book := { c.book with retries := c.book.retries.erase k } } :=
      ih.of_frame ⟨rfl, rfl, rfl, rfl⟩ rfl rfl rfl
    exact (herased.push k).of_frame (.refl _) rfl rfl rfl
  | receive _ _ _ ih => exact (ih.push _).of_frame (.refl _) rfl rfl rfl
  | start now hstage hnext hroom _ ih => exact ih.start rfl hstage hnext hroom
  | drain hstage _ ih =>
    refine ⟨ih.book, ih.nodup, ?_, ih.bound, ?_⟩
    · intro _
      exact ih.active_iff (by simp [Controller.isOver, hstage])
    · intro hstopped
      simp [Controller.isOver] at hstopped
  | @collapse c _ hstage hover _ ih =>
    have hended : c.ended = [] := by
      rw [Controller.isOverdrawn, Bool.and_eq_true, List.isEmpty_iff] at hover
      exact hover.1
    have hkeys : c.collapse.inFlightKeys = [] := by
      simp [Controller.inFlightKeys, Controller.collapse, hended]
    refine ⟨ih.book, ?_, ?_, ?_, fun _ => rfl⟩
    · rw [hkeys]
      exact List.nodup_nil
    · intro hgoes
      simp [Controller.isOver, Controller.collapse] at hgoes
    · rw [← Controller.length_inFlightKeys, hkeys]
      exact Nat.zero_le _
  | stop hstage _ ih =>
    refine ⟨ih.book, ih.nodup, ?_, ih.bound, ?_⟩
    · intro hgoes
      simp [Controller.isOver] at hgoes
    · intro _
      rcases hstage with ⟨-, hrunning⟩ | hcollapsed
      · exact hrunning
      · exact ih.silent (by simp [Controller.isOver, hcollapsed])

namespace Course

variable {policy : QueuePolicy ε} {s : Course κ ε}

/-- Whatever happens, the keys of a controller are held apart, and no key is ever reconciled by two
workers at once. -/
theorem no_key_is_reconciled_twice_at_once (h : Reachable policy s) :
    s.controller.Orderly policy.workers ∧ (s.controller.running.map (·.key)).Nodup := by
  have horderly := h.history.orderly
  refine ⟨horderly, ?_⟩
  have hflight := horderly.nodup
  rw [Controller.inFlightKeys] at hflight
  exact (List.nodup_append.mp hflight).1

/-- One key is active and dirty while the other one waits, and the one worker has one reconcile. -/
theorem busy_is_orderly :
    busy.controller.book.ready = ["b"] ∧ busy.controller.book.dirty.contains "a" = true ∧
      busy.controller.inFlightKeys = ["a"] ∧ busy.controller.Orderly 1 ∧
      (busy.controller.running.map (·.key)).Nodup := by
  have horderly := no_key_is_reconciled_twice_at_once reachable_busy
  exact ⟨by decide, by decide, by decide, horderly⟩

end Course

end WorkspaceAccess
