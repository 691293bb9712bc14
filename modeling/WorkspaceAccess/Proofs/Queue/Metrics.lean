import WorkspaceAccess.Proofs.Queue.Ledger

/-!
# The Metrics Account for Every Reconcile

The metrics of a controller agree with its ledger: they count the reconciles that began, those that
ended, those of them that failed or were cut short, and the ends that were taken up with a new or an
earlier retry. What began and has not ended is in flight, unless the controller has collapsed; then
it was given up.

The proof keeps books. For each step `Balances` says how the metrics and what is in flight change,
in terms of the entries that are made for the step; for a whole course `Accounted` says how they
agree with all entries. The one is proved by a lemma for each kind of step, the other follows by
induction on the ledger, and nothing in the induction depends on which step it is.

What was started is not counted until it begins, so that there are two accounts: one of what has
begun, which is under way or has ended, and one of what was started, which has begun or is fresh.
Their sum is what the controller has in flight.

## Main results

* `Reachable.fresh_sublist`, `Reachable.length_underway`: what is in flight has begun or has not.
* `Balances.of_begin`, `Balances.of_finish`, `Balances.of_goesOn`, `Balances.of_collapses`: what
  each kind of step changes is what it enters.
* `Enters.balances`: the same for whatever happens next.
* `Ledger.accounted`: the metrics agree with every ledger.
* `Reachable.retries_of_entry`: an end that is entered with a retry is one whose retry is recorded.
* `metrics_account_for_every_run`: all of it for every reachable course and each of its ledgers.
* `relapsing_accounts_for_runs`: a key that fails, is enqueued before its retry is due, and is cut
  short, so that of two ends only the first one records a retry.
-/

namespace WorkspaceAccess

variable {κ ε : Type} [KeyOrder κ] {policy : QueuePolicy ε}

namespace Run

/-- If no key stands twice in a list, a part of it and what is not in this part are all of it. -/
theorem length_unlisted_add {part runs : List (Run κ)} (h : part.Sublist runs)
    (hkeys : (runs.map (·.key)).Nodup) :
    (runs.filter (·.isUnlisted part)).length + part.length = runs.length := by
  induction h with
  | slnil => rfl
  | @cons part runs run h ih =>
    rw [List.map_cons, List.nodup_cons] at hkeys
    have hrun : run.isUnlisted part = true :=
      isUnlisted_iff.mpr fun hlisted => hkeys.1 ((h.map _).subset hlisted)
    rw [List.filter_cons, if_pos hrun, List.length_cons, List.length_cons, ← ih hkeys.2]
    omega
  | @cons_cons part runs run h ih =>
    rw [List.map_cons, List.nodup_cons] at hkeys
    have hrun : ¬run.isUnlisted (run :: part) = true := by
      simp [isUnlisted_iff]
    have hothers : ∀ other ∈ runs, other.isUnlisted (run :: part) = other.isUnlisted part := by
      intro other hother
      have hne : run.key ≠ other.key := fun hkey => hkeys.1 (hkey ▸ List.mem_map_of_mem hother)
      rw [isUnlisted, List.all_cons, bne_iff_ne.mpr (mt KeyOrder.compare_eq_iff.mp hne)]
      rfl
    rw [List.filter_cons, if_neg hrun, List.filter_congr hothers, List.length_cons,
      List.length_cons, ← ih hkeys.2]
    omega

end Run

namespace Course

variable {s t : Course κ ε} {new entries : List (LedgerEntry κ ε)}

/-! ### The reconciles in flight -/

/-- A reconcile that ends is in flight no more, and the others are. -/
theorem Reachable.running_finish (h : Reachable policy s) {run : Run κ} (outcome : Outcome ε)
    (hrun : run ∈ s.controller.running) : ∃ before after,
      s.controller.running = before ++ run :: after ∧
        (s.controller.endRun s.now run.key outcome).running = before ++ after := by
  obtain ⟨other, before, after, hkey, hsplit, hrunning, -⟩ :=
    Controller.endRun_spec s.now outcome hrun
  have hnodup := (no_key_is_reconciled_twice_at_once h).2
  have hother : other ∈ s.controller.running := by simp [hsplit]
  obtain rfl := List.inj_on_of_nodup_map hnodup hother hrun hkey
  exact ⟨before, after, hsplit, hrunning⟩

/-- What was started and has not begun is in flight. -/
theorem Reachable.fresh_sublist (h : Reachable policy s) :
    s.fresh.Sublist s.controller.running := by
  induction h with
  | start now => exact .refl _
  | @next s _ h step ih =>
    cases step with
    | enqueue | signal | wait _ => exact ih
    | begin hrun =>
      rw [hrun] at ih
      exact ((List.sublist_cons_self _ _).append_left _).trans ih
    | @finish run outcome hrun hbegun =>
      obtain ⟨before, after, hsplit, hrunning⟩ := h.running_finish outcome hrun
      rw [hsplit, List.sublist_append_iff] at ih
      obtain ⟨first, last, hfresh, hfirst, hlast⟩ := ih
      show s.fresh.Sublist (s.controller.endRun s.now run.key outcome).running
      rw [hrunning, hfresh]
      -- What ends has begun, so that the reconciles that have not lie before and behind it.
      refine hfirst.append ?_
      rcases List.sublist_cons_iff.mp hlast with hlast | ⟨_, rfl, -⟩
      · exact hlast
      · exact absurd (by simp [hfresh]) hbegun
    | act =>
      rcases goesOn_or_collapses h with ⟨runs, hgoes⟩ | hcollapses
      · rw [hgoes.fresh, hgoes.running]
        exact ih.append (.refl runs)
      · rw [hcollapses.act]
        exact .refl _

/-- What is in flight has begun or has not. -/
theorem Reachable.length_underway (h : Reachable policy s) :
    s.underway.length + s.fresh.length = s.controller.running.length :=
  Run.length_unlisted_add h.fresh_sublist (no_key_is_reconciled_twice_at_once h).2

/-! ### What a step enters -/

open LedgerEntry in
/-- What changes from one course to another is what is entered for it. -/
structure Balances (s t : Course κ ε) (new : List (LedgerEntry κ ε)) : Prop where
  /-- The reconciles that begin are counted as reconciles. -/
  reconciles : t.controller.metrics.reconciles =
    s.controller.metrics.reconciles + new.countP isBegun
  /-- Those that end are put into the histogram. -/
  durations : t.controller.metrics.durations.count =
    s.controller.metrics.durations.count + new.countP isEnded
  /-- Those that fail or are cut short are counted. -/
  failures : t.controller.metrics.failures = s.controller.metrics.failures + new.countP isFailed
  /-- The ends that are taken up with a new or an earlier retry are counted. -/
  requeues : t.controller.metrics.requeues =
    s.controller.metrics.requeues + new.countP isRequeued
  /-- What is under way and what begins ends, is given up or is under way after it. -/
  underway : s.underway.length + new.countP isBegun =
    t.underway.length + new.countP isEnded + new.countP isAbandoned
  /-- What is to begin and what is started begins, is given up or is to begin after it. -/
  fresh : t.log.countP (·.2.isStarted) + s.fresh.length = s.log.countP (·.2.isStarted) +
    t.fresh.length + new.countP isBegun + new.countP isCancelled
  /-- Nothing is given up unless the controller collapses. -/
  kept : .collapsed ∉ new → new.countP isAbandoned = 0 ∧ new.countP isCancelled = 0
  /-- A controller that collapses or has collapsed is over. -/
  ends : .collapsed ∈ new ∨ s.controller.isOver = true ∧ s.controller.isOverdrawn = true →
    t.controller.isOver = true ∧ t.controller.isOverdrawn = true

namespace Balances

open LedgerEntry

/-- Nothing is entered when neither the metrics nor what is in flight change. -/
theorem of_same (hmetrics : t.controller.metrics = s.controller.metrics)
    (hunderway : t.underway = s.underway) (hfresh : t.fresh = s.fresh)
    (hstarts : t.log.countP (·.2.isStarted) = s.log.countP (·.2.isStarted))
    (hover : t.controller.isOver = s.controller.isOver)
    (hoverdrawn : t.controller.isOverdrawn = s.controller.isOverdrawn) : s.Balances t [] := by
  refine ⟨congrArg QueueMetrics.reconciles hmetrics, congrArg (·.durations.count) hmetrics,
    congrArg QueueMetrics.failures hmetrics, congrArg QueueMetrics.requeues hmetrics, ?_, ?_,
    fun _ => ⟨rfl, rfl⟩, ?_⟩
  · rw [hunderway]
    rfl
  · rw [hstarts, hfresh]
    rfl
  · rintro (hnew | h)
    · cases hnew
    · rwa [hover, hoverdrawn]

/-- A reconcile that begins is under way, and counted as started. -/
theorem of_begin (h : Reachable policy s) {before after : List (Run κ)} {run : Run κ}
    (hrun : s.fresh = before ++ run :: after) :
    s.Balances { s with controller := s.controller.beginRun, fresh := before ++ after }
      [.begun run.key] := by
  have hfresh : s.fresh.length = (before ++ after).length + 1 := by
    rw [hrun, List.length_append, List.length_append, List.length_cons]
    omega
  refine ⟨rfl, rfl, rfl, rfl, ?_, ?_, fun _ => ⟨rfl, rfl⟩, ?_⟩
  · -- As many reconciles are in flight as before, and one less of them has not begun.
    have hbefore := h.length_underway
    have hafter := (h.next (.begin s hrun)).length_underway
    have hrunning : s.controller.beginRun.running = s.controller.running := rfl
    simp only [hrunning] at hafter
    show s.underway.length + 1 = _ + 0 + 0
    omega
  · show s.log.countP (·.2.isStarted) + s.fresh.length =
      s.log.countP (·.2.isStarted) + (before ++ after).length + 1 + 0
    omega
  · rintro (hnew | hover)
    · simp at hnew
    · exact hover

/-- A reconcile that ends is under way no more. -/
theorem of_finish (h : Reachable policy s) {run : Run κ} (outcome : Outcome ε)
    (hrun : run ∈ s.controller.running) (hbegun : run ∉ s.fresh) :
    s.Balances (s.finish run.key outcome) [.ended run.key outcome] := by
  obtain ⟨duration, hmetrics⟩ := Controller.metrics_endRun s.now outcome hrun
  have hfinish : (s.finish run.key outcome).controller.metrics =
      s.controller.metrics.finish duration outcome.isFailure := hmetrics
  have hgoes : s.controller.isOver ≠ true := by
    intro hover
    rw [h.history.orderly.silent hover] at hrun
    cases hrun
  refine ⟨?_, ?_, ?_, ?_, ?_, ?_, fun _ => ⟨rfl, rfl⟩, ?_⟩
  · rw [hfinish]
    rfl
  · rw [hfinish]
    rfl
  · rw [hfinish, List.countP_singleton]
    cases hfailure : outcome.isFailure <;> simp [QueueMetrics.finish, isFailed, hfailure]
  · rw [hfinish]
    rfl
  · have hbefore := h.length_underway
    have hafter := (h.next (.finish s outcome hrun hbegun)).length_underway
    obtain ⟨before, after, hsplit, hrunning⟩ := h.running_finish outcome hrun
    have hfewer : s.controller.running.length =
        (s.finish run.key outcome).controller.running.length + 1 := by
      rw [Course.finish, hrunning, hsplit, List.length_append, List.length_append,
        List.length_cons]
      omega
    have hfresh : (s.finish run.key outcome).fresh = s.fresh := rfl
    rw [hfresh] at hafter
    show s.underway.length + 0 = (s.finish run.key outcome).underway.length + 1 + 0
    omega
  · have hstarts : (s.finish run.key outcome).log.countP (·.2.isStarted) =
        s.log.countP (·.2.isStarted) := List.countP_cons_of_neg nofun
    rw [hstarts]
    rfl
  · rintro (hnew | hover)
    · simp at hnew
    · exact absurd hover.1 hgoes

/-- When the controller goes on the retries that are recorded are counted. -/
theorem of_goesOn (h : Reachable policy s) {runs : List (Run κ)} (hgoes : s.GoesOn policy runs) :
    s.Balances (s.act policy) (s.entriesOfAct policy) := by
  -- All that may be entered is an end that is taken up.
  have hnone : ∀ p : LedgerEntry κ ε → Bool, (∀ k outcome asked? pending?,
      p (.weighed k outcome asked? pending?) = false) → (s.entriesOfAct policy).countP p = 0 := by
    intro p hp
    rcases hgoes.entries with hentries | ⟨k, outcome, asked?, pending?, hentries⟩
    · rw [hentries]
      rfl
    · rw [hentries, List.countP_singleton, hp]
      rfl
  have hspared : .collapsed ∉ s.entriesOfAct policy := by
    rcases hgoes.entries with hentries | ⟨k, outcome, asked?, pending?, hentries⟩ <;>
      simp [hentries]
  have hbegun := hnone isBegun fun _ _ _ _ => rfl
  have hended := hnone isEnded fun _ _ _ _ => rfl
  have hfailed := hnone isFailed fun _ _ _ _ => rfl
  have habandoned := hnone isAbandoned fun _ _ _ _ => rfl
  have hcancelled := hnone isCancelled fun _ _ _ _ => rfl
  refine ⟨?_, ?_, ?_, ?_, ?_, ?_, fun _ => ⟨habandoned, hcancelled⟩, ?_⟩
  · rw [hgoes.metrics, hbegun]
    rfl
  · rw [hgoes.metrics, hended]
    rfl
  · rw [hgoes.metrics, hfailed]
    rfl
  · rw [hgoes.metrics]
  · have hbefore := h.length_underway
    have hafter := (h.next (.act s)).length_underway
    rw [hgoes.running, hgoes.fresh, List.length_append, List.length_append] at hafter
    rw [hbegun, hended, habandoned]
    omega
  · rw [hgoes.starts, hgoes.fresh, hbegun, hcancelled, List.length_append]
    omega
  · rintro (hnew | ⟨hover, hoverdrawn⟩)
    · exact absurd hnew hspared
    · obtain ⟨hstill, hsame⟩ := hgoes.ends hover
      exact ⟨hstill, hsame.trans hoverdrawn⟩

/-- When the controller collapses nothing is counted, and nothing is in flight any more. -/
theorem of_collapses (hcollapses : s.Collapses policy) :
    s.Balances (s.act policy) (s.entriesOfAct policy) := by
  have hgivenUp : ∀ p : LedgerEntry κ ε → Bool, (s.entriesOfAct policy).countP p =
      (if p .collapsed then 1 else 0) + s.underway.countP (p <| .abandoned ·.key) +
        s.fresh.countP (p <| .cancelled ·.key) := by
    intro p
    rw [hcollapses.entries, List.countP_cons, List.countP_append, List.countP_map,
      List.countP_map]
    simp only [Function.comp_def]
    omega
  have hnothing : Course.underway { s with controller := s.controller.collapse, fresh := [] } =
      [] := rfl
  rw [hcollapses.act]
  refine ⟨?_, ?_, ?_, ?_, ?_, ?_, ?_, ?_⟩
  · simp [hgivenUp, isBegun, Controller.collapse]
  · simp [hgivenUp, isEnded, Controller.collapse]
  · simp [hgivenUp, isFailed, Controller.collapse]
  · simp [hgivenUp, isRequeued, Controller.collapse]
  · simp [hgivenUp, isBegun, isEnded, isAbandoned, hnothing]
  · simp [hgivenUp, isBegun, isCancelled]
  · intro hspared
    simp [hcollapses.entries] at hspared
  · intro _
    exact ⟨rfl, hcollapses.overdrawn⟩

end Balances

/-- Whatever happens next, what changes of the metrics is what is entered. One case for each kind of
step. -/
theorem Enters.balances (hstep : Enters policy s new t) (h : Reachable policy s) :
    s.Balances t new := by
  cases hstep with
  | enqueue k => exact .of_same rfl rfl rfl (List.countP_cons_of_neg nofun) rfl rfl
  | begin hrun => exact .of_begin h hrun
  | finish outcome hrun hbegun => exact .of_finish h outcome hrun hbegun
  | signal | wait _ => exact .of_same rfl rfl rfl rfl rfl rfl
  | act =>
    rcases goesOn_or_collapses h with ⟨runs, hgoes⟩ | hcollapses
    · exact .of_goesOn h hgoes
    · exact .of_collapses hcollapses

/-! ### The books -/

open LedgerEntry in
/-- The metrics of a course agree with a ledger of it. -/
structure Accounted (s : Course κ ε) (entries : List (LedgerEntry κ ε)) : Prop where
  /-- The reconciles that began are counted, and no others. -/
  reconciles : s.controller.metrics.reconciles = entries.countP isBegun
  /-- Those that ended are in the histogram of durations, and no others. -/
  durations : s.controller.metrics.durations.count = entries.countP isEnded
  /-- Those that failed or were cut short are counted. -/
  failures : s.controller.metrics.failures = entries.countP isFailed
  /-- The ends that were taken up with a new or an earlier retry are counted. -/
  requeues : s.controller.metrics.requeues = entries.countP isRequeued
  /-- What began has ended, is under way or was given up. -/
  begun : s.controller.metrics.reconciles =
    s.controller.metrics.durations.count + s.underway.length + entries.countP isAbandoned
  /-- What was started began, is to begin or was given up. -/
  started : s.log.countP (·.2.isStarted) =
    s.controller.metrics.reconciles + s.fresh.length + entries.countP isCancelled
  /-- Nothing was given up unless the controller has collapsed. -/
  kept : .collapsed ∉ entries → entries.countP isAbandoned = 0 ∧ entries.countP isCancelled = 0
  /-- A controller that has collapsed is over, and a retry of it lies too far ahead. -/
  ends : .collapsed ∈ entries →
    s.controller.isOver = true ∧ s.controller.isOverdrawn = true

/-- What is entered for what changes keeps the agreement, whichever kind of step it is. -/
theorem Accounted.append (h : s.Accounted entries) (hnew : s.Balances t new) :
    t.Accounted (new ++ entries) := by
  refine ⟨?_, ?_, ?_, ?_, ?_, ?_, ?_, ?_⟩
  · rw [hnew.reconciles, h.reconciles, List.countP_append, Nat.add_comm]
  · rw [hnew.durations, h.durations, List.countP_append, Nat.add_comm]
  · rw [hnew.failures, h.failures, List.countP_append, Nat.add_comm]
  · rw [hnew.requeues, h.requeues, List.countP_append, Nat.add_comm]
  · have hunderway := hnew.underway
    rw [hnew.reconciles, hnew.durations, h.begun, List.countP_append]
    omega
  · have hfresh := hnew.fresh
    have hstarted := h.started
    rw [hnew.reconciles, List.countP_append]
    omega
  · intro hgoes
    rw [List.mem_append, not_or] at hgoes
    rw [List.countP_append, List.countP_append, (hnew.kept hgoes.1).1, (hnew.kept hgoes.1).2,
      (h.kept hgoes.2).1, (h.kept hgoes.2).2]
    exact ⟨rfl, rfl⟩
  · intro hcollapsed
    exact hnew.ends ((List.mem_append.mp hcollapsed).imp_right h.ends)

/-- The metrics agree with every ledger, by induction on it: each step adds what it enters. -/
theorem Ledger.accounted (h : Ledger policy s entries) : s.Accounted entries := by
  induction h with
  | start now => exact ⟨rfl, rfl, rfl, rfl, rfl, rfl, fun _ => ⟨rfl, rfl⟩, nofun⟩
  | next h hstep ih => exact ih.append (hstep.balances h.reachable)

/-! ### Every reachable course -/

/-- Of a time and the recorded one the new one is kept just when the other one is later. -/
theorem some_earliest (time : Instant) (recorded? : Option Instant) :
    some (earliest time recorded?) =
      if recorded?.all (time < ·) then some time else recorded? := by
  cases recorded? with
  | none => rfl
  | some recorded =>
    by_cases hlater : time < recorded
    · simp [earliest, hlater, Nat.min_eq_left (Nat.le_of_lt hlater)]
    · simp [earliest, hlater, Nat.min_eq_right (Nat.le_of_not_lt hlater)]

/-- The retry that is recorded after the end of a reconcile is the one that its outcome asks for
if it is entered with a retry. Otherwise a failure leaves the one that was pending, and a success
leaves none. -/
theorem Reachable.retries_of_entry (h : Reachable policy s) {k : κ} {outcome : Outcome ε}
    {rest : List (κ × Outcome ε)} (hstage : s.controller.stage = .serving)
    (hgoes : s.controller.signalled = false)
    (hended : s.controller.ended = (k, outcome) :: rest) :
    (s.act policy).controller.book.retries.get? k =
      if (s.entryOf policy k outcome).isRequeued then s.asked? policy k outcome
      else if outcome.isFailure then s.controller.book.retries.get? k else none := by
  have hcompletes := completes h hstage hgoes hended
  cases outcome with
  | failure error => exact (hcompletes.failed rfl).trans (some_earliest _ _)
  | panic => exact (hcompletes.panicked rfl).trans (some_earliest _ _)
  | success action =>
    cases action with
    | done => exact hcompletes.done rfl
    | requeue delay => exact hcompletes.requeued rfl

/-- How the metrics of a course account for its reconciles. -/
structure AccountsForRuns (policy : QueuePolicy ε) (s : Course κ ε) : Prop where
  /-- The course has a ledger, which says what happened in it. -/
  ledger : ∃ entries, Ledger policy s entries
  /-- The metrics agree with every ledger of it. -/
  accounted {entries : List (LedgerEntry κ ε)} : Ledger policy s entries → s.Accounted entries
  /-- What began and has not ended is under way, unless the controller has collapsed. -/
  underway {entries : List (LedgerEntry κ ε)} : Ledger policy s entries → .collapsed ∉ entries →
    s.controller.metrics.reconciles =
      s.controller.metrics.durations.count + s.underway.length
  /-- The rest of what is in flight was started and has not begun. -/
  inFlight : s.underway.length + s.fresh.length = s.controller.running.length
  /-- An end that is entered with a retry is one whose retry is recorded; after others a failure
  leaves the retry that was pending, and a success leaves none. -/
  recorded {k : κ} {outcome : Outcome ε} {rest : List (κ × Outcome ε)} :
    s.controller.stage = .serving → s.controller.signalled = false →
    s.controller.ended = (k, outcome) :: rest →
    (s.act policy).controller.book.retries.get? k =
      if (s.entryOf policy k outcome).isRequeued then s.asked? policy k outcome
      else if outcome.isFailure then s.controller.book.retries.get? k else none

/-- The metrics account for every reconcile. Whatever happens, they count the reconciles that began
and those that ended, whose difference is what is under way; those that failed or were cut short;
and the ends that were taken up before the shutdown and led to a new or an earlier retry. -/
theorem metrics_account_for_every_run (h : Reachable policy s) : s.AccountsForRuns policy := by
  refine ⟨reachable_iff_exists_ledger.mp h, Ledger.accounted, ?_, h.length_underway,
    h.retries_of_entry⟩
  intro entries hledger hgoes
  have hs := hledger.accounted
  rw [hs.begun, (hs.kept hgoes).1, Nat.add_zero]

/-- After its first failure the key is enqueued and reconciled again before its retry is due. -/
def retrying : Course String Unit :=
  let again := ((ailing.act .oneWorker).enqueue "a").act .oneWorker
  { again with controller := again.controller.beginRun, fresh := [] }

/-- This time the reconcile is cut short, which counts as one more failure. -/
def relapsing : Course String Unit := (retrying.finish "a" .panic).act .oneWorker

/-- The second end asks for a retry after ten seconds when one after five seconds is pending. -/
theorem ledger_relapsing : Ledger .oneWorker relapsing
    [.weighed "a" .panic (some 10000000000) (some 5000000000), .ended "a" .panic, .begun "a",
      .weighed "a" (.failure ()) (some 5000000000) none, .ended "a" (.failure ()), .begun "a"] := by
  have henqueued : Ledger .oneWorker (enqueue { now := 0 } "a") [] :=
    (Ledger.start 0).next (.enqueue _ "a")
  have hfresh : ((enqueue { now := 0 } "a").act .oneWorker).fresh = [] ++ firstRun :: [] := by
    decide
  have hbegun : Ledger .oneWorker begun [.begun "a"] :=
    (henqueued.act [] (by decide)).next (.begin _ hfresh)
  have hrunning : firstRun ∈ begun.controller.running := by decide
  have hended := (hbegun.next (.finish _ (.failure ()) hrunning List.not_mem_nil)).act
    [.weighed "a" (.failure ()) (some 5000000000) none] (by decide)
  have hagain := (hended.next (.enqueue _ "a")).act [] (by decide)
  have hfresh' : (((ailing.act .oneWorker).enqueue "a").act .oneWorker).fresh =
      [] ++ firstRun :: [] := by decide
  have hretrying := hagain.next (.begin _ hfresh')
  have hrunning' : firstRun ∈ retrying.controller.running := by decide
  exact (hretrying.next (.finish _ .panic hrunning' List.not_mem_nil)).act
    [.weighed "a" .panic (some 10000000000) (some 5000000000)] (by decide)

/-- Both reconciles failed, and a retry was recorded after the first one only. -/
theorem relapsing_accounts_for_runs :
    Reachable .oneWorker relapsing ∧ relapsing.AccountsForRuns .oneWorker ∧
      relapsing.controller.metrics.reconciles = 2 ∧
      relapsing.controller.metrics.durations.count = 2 ∧
      relapsing.controller.metrics.failures = 2 ∧ relapsing.controller.metrics.requeues = 1 ∧
      relapsing.underway = [] := by
  have haccounts := metrics_account_for_every_run ledger_relapsing.reachable
  have hs := haccounts.accounted ledger_relapsing
  exact ⟨ledger_relapsing.reachable, haccounts, hs.reconciles, hs.durations, hs.failures,
    hs.requeues, by decide⟩

end Course

end WorkspaceAccess
