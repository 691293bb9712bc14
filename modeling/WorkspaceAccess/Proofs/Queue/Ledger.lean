import WorkspaceAccess.Proofs.Queue.RetryTiming

/-!
# The Ledger of a Controller

The metrics of a controller are raised in three places: when a reconcile begins, when it ends, and
when its end is taken up, if a retry is recorded then. The *ledger* of a course has an entry for
whatever happens in these places. It is kept beside the course and is no part of it: forgetting it
gives exactly the courses that are reachable.

An end is entered with the retry that its outcome asks for and with the one that was pending, so
that it is the entry which tells whether a retry is recorded, and not the metrics. Otherwise it
would be no news that the metrics agree with the ledger.

A controller that collapses gives up what is in flight: its reconciles do not end, and they are
entered as abandoned if they had begun and as cancelled otherwise. Without these entries nothing
could be said about the difference of what began and what ended.

The second half of the module is about the one step that is hard to account for, the next thing that
a controller does by itself. There are two cases. It collapses, or it goes on: it gives up nothing,
starts some reconciles or none, and takes up one end at most. Each case is a structure that says all
that the books need to know, so that nothing after it opens a step.

## Main results

* `step_iff_exists_enters`: every step has one way in which it is entered.
* `reachable_iff_exists_ledger`: every reachable course has a ledger, and only these have.
* `metrics_startUpTo`, `metrics_tick`, `metrics_retryLater`, `metrics_endRun`: what each operation
  changes of the metrics.
* `Reachable.metrics_weigh`: a retry is counted just when the end that is taken up is entered as one
  with a retry.
* `GoesOn.of_serves`: a controller that serves goes on with what it takes up.
* `goesOn_or_collapses`: whatever a controller does next, it goes on or collapses.
-/

namespace WorkspaceAccess

/-! ### Ledgers -/

/-- What is entered in the ledger of a controller. -/
inductive LedgerEntry (κ ε : Type) where
  /-- A reconcile of the key begins. -/
  | begun (key : κ)
  /-- A reconcile of the key ends, with its outcome. -/
  | ended (key : κ) (outcome : Outcome ε)
  /-- The end of a reconcile is taken up: its outcome asks for a retry at a time or for none, and
  a retry of its key is pending or none is. -/
  | weighed (key : κ) (outcome : Outcome ε) (asked? pending? : Option Instant)
  /-- The controller collapses, and what was in flight will not end. -/
  | collapsed
  /-- A reconcile that has begun is given up. -/
  | abandoned (key : κ)
  /-- A reconcile that was started and has not begun is given up. -/
  | cancelled (key : κ)
  deriving DecidableEq

namespace LedgerEntry

variable {κ ε : Type}

/-- A reconcile began, which is when the metrics count it. -/
def isBegun : LedgerEntry κ ε → Bool
  | begun _ => true
  | _ => false

/-- A reconcile ended, which is when its duration is put into the histogram. -/
def isEnded : LedgerEntry κ ε → Bool
  | ended .. => true
  | _ => false

/-- A reconcile ended that failed or was cut short, which is when a failure is counted. -/
def isFailed : LedgerEntry κ ε → Bool
  | ended _ outcome => outcome.isFailure
  | _ => false

/-- An end was taken up and a retry was recorded: the one that a success asks for, or the one that
a failure asks for unless one is pending that is not later. -/
def isRequeued : LedgerEntry κ ε → Bool
  | weighed _ outcome (some time) pending? => !outcome.isFailure || pending?.all (time < ·)
  | _ => false

/-- A reconcile that had begun was given up, so that it never ends. -/
def isAbandoned : LedgerEntry κ ε → Bool
  | abandoned _ => true
  | _ => false

/-- A reconcile that had not begun was given up, so that it never begins. -/
def isCancelled : LedgerEntry κ ε → Bool
  | cancelled _ => true
  | _ => false

end LedgerEntry

variable {κ ε : Type} [KeyOrder κ] {policy : QueuePolicy ε}

namespace Run

/-- No reconcile of the key is among those of a list. -/
def isUnlisted (run : Run κ) (runs : List (Run κ)) : Bool :=
  runs.all fun other => KeyOrder.compare other.key run.key != .eq

/-- No reconcile of a key is listed just when the key is none of those that are. -/
theorem isUnlisted_iff {run : Run κ} {runs : List (Run κ)} :
    run.isUnlisted runs = true ↔ run.key ∉ runs.map (·.key) := by
  simp [isUnlisted]

end Run

namespace Course

variable {s t : Course κ ε} {new entries : List (LedgerEntry κ ε)}

/-- The reconciles in flight that have begun, which are those of which none is yet to begin. -/
def underway (s : Course κ ε) : List (Run κ) := s.controller.running.filter (·.isUnlisted s.fresh)

/-- The time of the retry that an outcome of a key asks for, whatever is recorded by then. -/
def asked? (policy : QueuePolicy ε) (s : Course κ ε) (k : κ) : Outcome ε → Option Instant
  | .success .done => none
  | .success (.requeue delay) => some (s.now + delay.toNanos)
  | .failure error => some (s.now + (policy.retryAfter error (s.failuresInRow k)).toNanos)
  | .panic => some (s.now + (Backoff.standard.delay (s.failuresInRow k)).toNanos)

/-- What is entered when the end of the reconcile of a key is taken up. -/
def entryOf (policy : QueuePolicy ε) (s : Course κ ε) (k : κ) (outcome : Outcome ε) :
    LedgerEntry κ ε :=
  .weighed k outcome (s.asked? policy k outcome) (s.controller.book.retries.get? k)

/-- What is entered when the controller does the next thing that lies before it. Once it was told
to shut down it takes up nothing. -/
def entriesOfAct (policy : QueuePolicy ε) (s : Course κ ε) : List (LedgerEntry κ ε) :=
  if s.controller.stage = .serving ∧ s.controller.signalled = false then
    match s.controller.ended with
    | (k, outcome) :: _ => [s.entryOf policy k outcome]
    | [] =>
      if s.controller.alarms.overdrawn then
        .collapsed :: (s.underway.map (.abandoned ·.key) ++ s.fresh.map (.cancelled ·.key))
      else []
  else []

/-- What may happen next, with what is entered for it. -/
inductive Enters (policy : QueuePolicy ε) :
    Course κ ε → List (LedgerEntry κ ε) → Course κ ε → Prop
  /-- A key is enqueued, and nothing is entered. -/
  | enqueue (s : Course κ ε) (k : κ) : Enters policy s [] (s.enqueue k)
  /-- A reconcile that was started begins, which is entered. -/
  | begin (s : Course κ ε) {before after : List (Run κ)} {run : Run κ}
      (hrun : s.fresh = before ++ run :: after) :
      Enters policy s [.begun run.key]
        { s with controller := s.controller.beginRun, fresh := before ++ after }
  /-- A reconcile in flight ends with some outcome. -/
  | finish (s : Course κ ε) {run : Run κ} (outcome : Outcome ε)
      (hrun : run ∈ s.controller.running) (hbegun : run ∉ s.fresh) :
      Enters policy s [.ended run.key outcome] (s.finish run.key outcome)
  /-- The controller is told to shut down, and nothing is entered. -/
  | signal (s : Course κ ε) : Enters policy s [] { s with controller := s.controller.signal }
  /-- Time goes by, and nothing is entered. -/
  | wait (s : Course κ ε) {later : Instant} (h : s.now ≤ later) :
      Enters policy s [] { s with now := later }
  /-- The controller does the next thing that lies before it. -/
  | act (s : Course κ ε) : Enters policy s (s.entriesOfAct policy) (s.act policy)

/-- The ledgers of a course, the newest entry first. A course has one for every way in which it
comes about. -/
inductive Ledger (policy : QueuePolicy ε) : Course κ ε → List (LedgerEntry κ ε) → Prop
  /-- Nothing has happened, and nothing is entered. -/
  | start (now : Instant) : Ledger policy { now } []
  /-- Something more happens, and what it enters comes last. -/
  | next {s t : Course κ ε} {new entries : List (LedgerEntry κ ε)} (h : Ledger policy s entries)
      (hstep : Enters policy s new t) : Ledger policy t (new ++ entries)

/-- What the controller does next is entered in the ledger, as the entries that its act has. -/
theorem Ledger.act (h : Ledger policy s entries) (new : List (LedgerEntry κ ε))
    (hnew : s.entriesOfAct policy = new) : Ledger policy (s.act policy) (new ++ entries) := by
  rw [← hnew]
  exact h.next (.act s)

/-- Forgetting what is entered gives exactly the steps: every step can be entered, in one way. -/
theorem step_iff_exists_enters : Step policy s t ↔ ∃ new, Enters policy s new t := by
  constructor
  · intro h
    cases h with
    | enqueue k => exact ⟨_, .enqueue s k⟩
    | begin hrun => exact ⟨_, .begin s hrun⟩
    | finish outcome hrun hbegun => exact ⟨_, .finish s outcome hrun hbegun⟩
    | signal => exact ⟨_, .signal s⟩
    | wait hlater => exact ⟨_, .wait s hlater⟩
    | act => exact ⟨_, .act s⟩
  · rintro ⟨new, h⟩
    cases h with
    | enqueue k => exact .enqueue s k
    | begin hrun => exact .begin s hrun
    | finish outcome hrun hbegun => exact .finish s outcome hrun hbegun
    | signal => exact .signal s
    | wait hlater => exact .wait s hlater
    | act => exact .act s

/-- A course that has a ledger is reachable: each entry is made by a step. -/
theorem Ledger.reachable (h : Ledger policy s entries) : Reachable policy s := by
  induction h with
  | start now => exact .start now
  | next _ hstep ih => exact ih.next (step_iff_exists_enters.mpr ⟨_, hstep⟩)

/-- Forgetting the ledger gives exactly the reachable courses, so that nothing is said about the
ledger of a course that could not come about. -/
theorem reachable_iff_exists_ledger :
    Reachable policy s ↔ ∃ entries, Ledger policy s entries := by
  constructor
  · intro h
    induction h with
    | start now => exact ⟨[], .start now⟩
    | next _ hstep ih =>
      obtain ⟨entries, hledger⟩ := ih
      obtain ⟨new, hnew⟩ := step_iff_exists_enters.mp hstep
      exact ⟨new ++ entries, hledger.next hnew⟩
  · rintro ⟨entries, h⟩
    exact h.reachable

end Course

/-! ### The metrics of a controller -/

namespace Bookkeeping

/-- A retry is recorded unless one is pending that is not later. -/
theorem isSome_schedule? (b : Bookkeeping κ) (k : κ) (time : Instant) :
    (b.schedule? k time).isSome = (b.retries.get? k).all (time < ·) := by
  rw [schedule?]
  cases b.retries.get? k with
  | none => rfl
  | some pending =>
    by_cases hearlier : pending ≤ time
    · simp [hearlier]
    · simp [hearlier, Nat.lt_of_not_le hearlier]

end Bookkeeping

namespace Controller

variable {c d : Controller κ ε} {now : Instant} {k : κ}

/-- Starting reconciles does not change the metrics: a reconcile is counted when it begins. -/
theorem metrics_startUpTo (policy : QueuePolicy ε) (now : Instant) (n : Nat)
    (c : Controller κ ε) : (startUpTo policy now n c).1.metrics = c.metrics := by
  induction n generalizing c with
  | zero => rfl
  | succ n ih =>
    rw [startUpTo]
    split
    · rfl
    · exact ih _

/-- No alarm changes the metrics, whether it rings or not. -/
theorem metrics_tick (c : Controller κ ε) (now : Instant) : (c.tick now).metrics = c.metrics := by
  rw [tick]
  split
  · rw [heed]
    split
    · rfl
    split <;> rfl
  · rfl

/-- A retry is counted when it is recorded, which is unless one is pending that is not later. -/
theorem metrics_retryLater (c : Controller κ ε) (now : Instant) (k : κ) (delay : Span) :
    (c.retryLater now k delay).metrics = { c.metrics with
      requeues := c.metrics.requeues +
        ((c.book.retries.get? k).all (now + delay.toNanos < ·)).toNat } := by
  rw [← Bookkeeping.isSome_schedule?]
  unfold retryLater
  simp only
  split
  · rename_i hnone
    rw [hnone]
    rfl
  · rename_i hsome
    rw [hsome]
    rfl

/-- The end of a reconcile in flight is counted, and counted as a failure if it is one. -/
theorem metrics_endRun {run : Run κ} (now : Instant) (outcome : Outcome ε)
    (hrun : run ∈ c.running) : ∃ duration,
      (c.endRun now run.key outcome).metrics = c.metrics.finish duration outcome.isFailure := by
  rw [endRun]
  split
  · rename_i hnone
    have hself := List.find?_eq_none.mp hnone run hrun
    rw [KeyOrder.compare_self] at hself
    exact absurd rfl hself
  · exact ⟨_, rfl⟩

end Controller

namespace Course

variable {s t : Course κ ε} {new entries : List (LedgerEntry κ ε)}

/-! ### What the controller does -/

/-- A controller that does not serve, or was told to shut down, only leaves its stage. -/
theorem act_of_not_serving
    (hserving : ¬(s.controller.stage = .serving ∧ s.controller.signalled = false)) :
    ∃ stage, s.act policy = { s with controller := { s.controller with stage } } ∧
      (s.controller.isOver = true → stage = .collapsed ∨ stage = .stopped) := by
  have hdoings : ∀ runs, s.controller.doings policy s.now runs = [] := by
    intro runs
    refine if_neg ?_
    rintro ⟨hstage, hgoes, -⟩
    exact hserving ⟨hstage, hgoes⟩
  have hleave : ∀ stage, stage ≠ .collapsed →
      s.controller.step? policy s.now = some ({ s.controller with stage }, []) →
      s.act policy = { s with controller := { s.controller with stage } } := by
    intro stage hgoes hstep
    simp [act, hstep, hdoings, hgoes]
  have hstay : s.controller.step? policy s.now = none → s.act policy = s := by
    intro hstep
    simp [act, hstep]
  cases hstage : s.controller.stage with
  | serving =>
    have hsignal : s.controller.signalled = true := by
      rw [hstage] at hserving
      simpa using hserving
    exact ⟨_, hleave .draining (by decide) (by simp [Controller.step?, hstage, hsignal]),
      by simp [Controller.isOver, hstage]⟩
  | draining =>
    by_cases hrunning : s.controller.running = []
    · exact ⟨_, hleave .stopped (by decide) (by simp [Controller.step?, hstage, hrunning]),
        fun _ => .inr rfl⟩
    · refine ⟨s.controller.stage, hstay (by simp [Controller.step?, hstage, hrunning]), ?_⟩
      simp [Controller.isOver, hstage]
  | collapsed =>
    by_cases hsignal : s.controller.signalled = true
    · exact ⟨_, hleave .stopped (by decide) (by simp [Controller.step?, hstage, hsignal]),
        fun _ => .inr rfl⟩
    · exact ⟨s.controller.stage, hstay (by simp [Controller.step?, hstage, hsignal]),
        fun _ => .inl hstage⟩
  | stopped =>
    exact ⟨s.controller.stage, hstay (by simp [Controller.step?, hstage]),
      fun _ => .inr hstage⟩

/-- A retry is counted just when the end that is taken up is entered as one with a retry. -/
theorem Reachable.metrics_weigh (h : Reachable policy s) {k : κ} {outcome : Outcome ε}
    {rest : List (κ × Outcome ε)} (hstage : s.controller.stage = .serving)
    (hgoes : s.controller.signalled = false)
    (hended : s.controller.ended = (k, outcome) :: rest) :
    ({ s.controller with ended := rest }.weigh policy s.now k outcome).metrics =
      { s.controller.metrics with
        requeues := s.controller.metrics.requeues +
          (s.entryOf policy k outcome).isRequeued.toNat } := by
  have hcompletes := completes h hstage hgoes hended
  cases outcome with
  | failure error =>
    rw [hcompletes.asks rfl, Controller.metrics_retryLater]
    rfl
  | panic =>
    rw [hcompletes.asksStandard rfl, Controller.metrics_retryLater]
    rfl
  | success action =>
    cases action with
    | done => rfl
    | requeue delay =>
      -- A success forgets the retry that was pending, so that nothing stands in its way.
      have hforgot : (s.controller.book.settle k).retries.get? k = none :=
        SortedMap.get?_erase_self _ _
      show ({ s.controller with
        ended := rest, book := s.controller.book.settle k }.retryLater s.now k delay).metrics = _
      rw [Controller.metrics_retryLater, hforgot]
      rfl

namespace Serves

variable {d : Controller κ ε}

/-- What is started has not begun: it is added to what waits to begin, in the order of the
starts. -/
theorem fresh (hserves : s.Serves policy d) (hover : s.controller.isOverdrawn = false) :
    (s.act policy).fresh = s.fresh ++ (d.dispatch policy s.now).2 := by
  have hstep := Controller.step?_of_takeUp? hserves.stage hserves.goes hover hserves.takeUp
  have hstage : (d.dispatch policy s.now).1.stage = .serving := by
    obtain ⟨-, -, -, hdispatch, -⟩ := Controller.dispatch_frame policy s.now d
    rw [hdispatch, History.stage_takeUp? hserves.takeUp, hserves.stage]
  simp [act, hstep, hstage]

/-- The end that is taken up is entered, and it is the only entry of that act. -/
theorem entries_of_cons (hserves : s.Serves policy d) {k : κ} {outcome : Outcome ε}
    {rest : List (κ × Outcome ε)} (hended : s.controller.ended = (k, outcome) :: rest) :
    s.entriesOfAct policy = [s.entryOf policy k outcome] := by
  rw [entriesOfAct, if_pos ⟨hserves.stage, hserves.goes⟩, hended]

/-- Nothing is entered when no end is taken up. -/
theorem entries_of_nil (hserves : s.Serves policy d) (hover : s.controller.isOverdrawn = false)
    (hended : s.controller.ended = []) : s.entriesOfAct policy = [] := by
  have halarms : s.controller.alarms.overdrawn = false := by
    simpa [Controller.isOverdrawn, hended] using hover
  rw [entriesOfAct, if_pos ⟨hserves.stage, hserves.goes⟩, hended]
  simp [halarms]

/-- The metrics show whether a retry is recorded, and nothing else is changed. -/
theorem metrics (hserves : s.Serves policy d) (h : Reachable policy s)
    (hover : s.controller.isOverdrawn = false) : d.metrics = { s.controller.metrics with
      requeues := s.controller.metrics.requeues +
        (s.entriesOfAct policy).countP LedgerEntry.isRequeued } := by
  have htake := hserves.takeUp
  cases hended : s.controller.ended with
  | nil =>
    rw [hserves.entries_of_nil hover hended]
    rw [Controller.takeUp?, hended] at htake
    simp only at htake
    split at htake
    · cases htake
      exact Controller.metrics_tick _ _
    split at htake
    · cases htake
    · cases htake
      rfl
  | cons first rest =>
    obtain ⟨k, outcome⟩ := first
    have hone : [s.entryOf policy k outcome].countP LedgerEntry.isRequeued =
        (s.entryOf policy k outcome).isRequeued.toNat := by
      rw [List.countP_singleton]
      cases (s.entryOf policy k outcome).isRequeued <;> rfl
    rw [hserves.entries_of_cons hended, hone]
    rw [Controller.takeUp?, hended] at htake
    cases htake
    exact h.metrics_weigh hserves.stage hserves.goes hended

end Serves

/-- The controller collapses and gives up what is in flight. -/
structure Collapses (policy : QueuePolicy ε) (s : Course κ ε) : Prop where
  /-- A retry lies too far ahead to be waited for. -/
  overdrawn : s.controller.isOverdrawn = true
  /-- Nothing is in flight any more, and nothing that was started will begin. -/
  act : s.act policy = { s with controller := s.controller.collapse, fresh := [] }
  /-- What was in flight is entered as given up. -/
  entries : s.entriesOfAct policy =
    .collapsed :: (s.underway.map (.abandoned ·.key) ++ s.fresh.map (.cancelled ·.key))

/-- The controller gives up nothing and starts some reconciles, or none. -/
structure GoesOn (policy : QueuePolicy ε) (s : Course κ ε) (runs : List (Run κ)) : Prop where
  /-- What was in flight is still in flight, before what is started. -/
  running : (s.act policy).controller.running = s.controller.running ++ runs
  /-- What is started has not begun yet. -/
  fresh : (s.act policy).fresh = s.fresh ++ runs
  /-- What is started is in the log, and nothing else that starts. -/
  starts : (s.act policy).log.countP (·.2.isStarted) =
    s.log.countP (·.2.isStarted) + runs.length
  /-- At most one end is taken up, with its outcome. -/
  entries : s.entriesOfAct policy = [] ∨ ∃ k outcome asked? pending?,
    s.entriesOfAct policy = [.weighed k outcome asked? pending?]
  /-- The metrics are those from before, but for the retries that are recorded. -/
  metrics : (s.act policy).controller.metrics = { s.controller.metrics with
    requeues := s.controller.metrics.requeues +
      (s.entriesOfAct policy).countP LedgerEntry.isRequeued }
  /-- A controller that has collapsed stays as it is. -/
  ends : s.controller.isOver = true → (s.act policy).controller.isOver = true ∧
    (s.act policy).controller.isOverdrawn = s.controller.isOverdrawn

namespace GoesOn

/-- Nothing but the stage changes, so nothing is taken up and nothing is started. -/
theorem of_same {stage : Stage}
    (hact : s.act policy = { s with controller := { s.controller with stage } })
    (hentries : s.entriesOfAct policy = [])
    (hover : s.controller.isOver = true → stage = .collapsed ∨ stage = .stopped) :
    s.GoesOn policy [] := by
  refine ⟨?_, ?_, ?_, .inl hentries, ?_, ?_⟩
  · rw [hact, List.append_nil]
  · rw [hact, List.append_nil]
  · rw [hact]
    rfl
  · rw [hact, hentries]
    rfl
  · intro h
    rw [hact]
    exact ⟨by rcases hover h with rfl | rfl <;> rfl, rfl⟩

/-- A controller that serves goes on with what it takes up. -/
theorem of_serves {d : Controller κ ε} (h : Reachable policy s) (hserves : s.Serves policy d)
    (hover : s.controller.isOverdrawn = false) :
    s.GoesOn policy (d.dispatch policy s.now).2 := by
  have hrunning : (d.dispatch policy s.now).1.running =
      s.controller.running ++ (d.dispatch policy s.now).2 := by
    rw [Controller.dispatch, Controller.running_startUpTo,
      Controller.running_of_takeUp? hserves.takeUp]
  have htaken : (s.controller.takenUp policy s.now).reverse.countP (·.2.isStarted) = 0 := by
    refine List.countP_eq_zero.mpr fun e he => Bool.eq_false_iff.mp ?_
    have htakenUp := Controller.isTakenUp_of_mem (List.mem_reverse.mp he)
    exact QueueEvent.isStarted_of_isTakenUp htakenUp
  have hstarted : ((d.dispatch policy s.now).2.map fun run =>
      (run.key, (QueueEvent.started : QueueEvent ε))).reverse.countP (·.2.isStarted) =
        (d.dispatch policy s.now).2.length := by
    simp [QueueEvent.isStarted, List.countP_map, Function.comp_def]
  refine ⟨?_, hserves.fresh hover, ?_, ?_, ?_, ?_⟩
  · rw [hserves.controller, hrunning]
  · rw [hserves.log, List.countP_append, List.countP_append, htaken, hstarted]
    omega
  · cases hended : s.controller.ended with
    | nil => exact .inl (hserves.entries_of_nil hover hended)
    | cons first rest => exact .inr ⟨_, _, _, _, hserves.entries_of_cons hended⟩
  · rw [hserves.controller, Controller.dispatch, Controller.metrics_startUpTo]
    exact hserves.metrics h hover
  · intro hover
    simp [Controller.isOver, hserves.stage] at hover

end GoesOn

/-- The controller goes on or collapses, whatever it does next. -/
theorem goesOn_or_collapses (h : Reachable policy s) :
    (∃ runs, s.GoesOn policy runs) ∨ s.Collapses policy := by
  by_cases hserving : s.controller.stage = .serving ∧ s.controller.signalled = false
  · have hentries : s.entriesOfAct policy = _ := if_pos hserving
    obtain ⟨hstage, hgoes⟩ := hserving
    by_cases hover : s.controller.isOverdrawn = true
    · refine .inr ⟨hover, ?_, ?_⟩
      · simp [act, Controller.step?, Controller.doings, hstage, hgoes, hover, Controller.collapse]
      · simp only [Controller.isOverdrawn, Bool.and_eq_true, List.isEmpty_iff] at hover
        rw [hentries, hover.1]
        exact if_pos hover.2
    · rw [Bool.not_eq_true] at hover
      cases htake : s.controller.takeUp? policy s.now with
      | none =>
        have hstep : s.controller.step? policy s.now = none := by
          simp [Controller.step?, hstage, hgoes, hover, htake]
        -- When nothing lies before it there is neither an end to take up nor a reason to collapse.
        obtain ⟨-, hended, -⟩ := Controller.of_settled hstage hstep
        have hact : s.act policy =
            { s with controller := { s.controller with stage := s.controller.stage } } := by
          simp [act, hstep]
        refine .inl ⟨[], .of_same hact ?_ ?_⟩
        · rw [hentries, hended]
          simpa [Controller.isOverdrawn, hended] using hover
        · simp [Controller.isOver, hstage]
      | some d => exact .inl ⟨_, .of_serves h (serves_of_takeUp? hstage hgoes hover htake) hover⟩
  · obtain ⟨stage, hact, hover⟩ := act_of_not_serving hserving
    exact .inl ⟨[], .of_same hact (if_neg hserving) hover⟩

end Course

end WorkspaceAccess
