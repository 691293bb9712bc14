import WorkspaceAccess.Proofs.Reconcile.Story

/-!
# Activities That End by a Time

An activity whose calls are all waited for up to a limit at most has ended by then, whatever it
calls and however long the calls take. Alone in the world it is done by the limit, and where others
change the world while it waits it never waits longer. An activity that ends with a call without a
limit makes that call by then, and nothing else can keep it.

`Bounded` is a property of the tree of calls and answers, and there is no world in it: every call
has a limit that is not later, whatever it is answered, except for one that may linger and after
which nothing more is called. It is what can be proved of a program by looking at it once. From it
follows when a run in a single world ends, and how long an activity waits among others, where the
world may be another one at each of its turns (`Reaches`).

The latter is the stronger statement. A run knows how long each call will take from the start; among
others a call that was quick may have become slow by the time it is made, and still the limit holds.

## Main results

* `bounded_within`, `Bounded.bind`: limits make activities bounded, and so are the compositions of
  bounded ones.
* `Bounded.run`: a bounded activity that is alone in the world has ended in time.
* `Bounded.proceed`, `Bounded.of_reaches`: whatever others do, a bounded activity comes in time to
  whatever it comes to.
* `Bounded.endsBy`: both together, for a bounded activity without a call that may linger.
-/

namespace WorkspaceAccess

variable {σ ω α β : Type} {limit start now : Instant} {Lingers : Call σ → Prop}

namespace Host

variable {host : Host σ ω} {world : ω} {call : Call σ}

/-- A call that is answered in time is over by then. -/
theorem le_of_inTime {inner : Instant} (hin : host.inTime world call now inner = true)
    (hnow : now ≤ limit) (hinner : inner ≤ limit) : now + host.delay world call ≤ limit := by
  rw [inTime, Bool.or_eq_true, beq_iff_eq, decide_eq_true_eq] at hin
  rcases hin with hdelay | hover
  · rw [hdelay, Nat.add_zero]
    exact hnow
  · exact Nat.le_trans hover hinner

/-- A time is not past the limit, or it is the one at which a lingering call is over that was made
by then. -/
def Due (host : Host σ ω) (limit : Instant) (Lingers : Call σ → Prop) (time : Instant) : Prop :=
  time ≤ limit ∨ ∃ call world begun, Lingers call ∧ begun ≤ limit ∧
    time = begun + host.delay world call

/-- Where no call lingers, only the limit is left. -/
theorem Due.le {time : Instant} (h : host.Due limit (fun _ => False) time) : time ≤ limit := by
  rcases h with hle | ⟨call, world, begun, hlingers, -⟩
  · exact hle
  · exact hlingers.elim

end Host

namespace Activity

/-- The calls of an activity are waited for up to a limit at most. Only the last one may linger. -/
inductive Bounded (limit : Instant) (Lingers : Call σ → Prop) : Activity σ α → Prop
  /-- There is no call to wait for any more. -/
  | done (result : α) : Bounded limit Lingers (.done result)
  /-- Whatever the clocks say, what follows is bounded. -/
  | look {next : Clock → Activity σ α} (h : ∀ clock, Bounded limit Lingers (next clock)) :
      Bounded limit Lingers (.look next)
  /-- What follows the report is bounded; the report itself takes no time. -/
  | report {counts : SweepCounts} {next : Activity σ α} (h : Bounded limit Lingers next) :
      Bounded limit Lingers (.report counts next)
  /-- A call has a limit of its own that is not past this one. -/
  | awaitUntil {inner : Instant} {call : Call σ} {next : call.Answer → Activity σ α}
      {late : Activity σ α} (hinner : inner ≤ limit)
      (h : ∀ answer, Bounded limit Lingers (next answer)) (hlate : Bounded limit Lingers late) :
      Bounded limit Lingers (.awaitUntil inner call next late)
  /-- A call without a limit is the last one. -/
  | last {call : Call σ} {next : call.Answer → Activity σ α} (hlingers : Lingers call)
      (hend : ∀ answer, ∃ result, next answer = .done result) :
      Bounded limit Lingers (.await call next)

variable {host : Host σ ω} {a : Activity σ α} {world : ω}

/-- An activity with a limit is bounded by it. -/
theorem bounded_within (a : Activity σ α) (limit : Instant) :
    (a.within limit).Bounded limit fun _ => False := by
  induction a with
  | done result => exact .done _
  | look _ ih => exact .look ih
  | report _ _ ih => exact .report ih
  | await _ _ ih => exact .awaitUntil (Nat.le_refl _) ih (.done _)
  | awaitUntil inner _ _ _ ih ihLate =>
    rw [within]
    split
    · rename_i hinner
      exact .awaitUntil hinner ih ihLate
    · exact .awaitUntil (Nat.le_refl _) ih (.done _)

/-- An activity that is bounded throughout may go on with others, and is as bounded then as these
are. -/
theorem Bounded.bind {f : α → Activity σ β} (h : a.Bounded limit fun _ => False)
    (hf : ∀ result, (f result).Bounded limit Lingers) : (a.bind f).Bounded limit Lingers := by
  induction h with
  | done result => exact hf result
  | look _ ih => exact .look ih
  | report _ ih => exact .report ih
  | awaitUntil hinner _ _ ih ihLate => exact .awaitUntil hinner ih ihLate
  | last hlingers => exact hlingers.elim

/-- An activity whose last call it is ends when the call is over. -/
theorem instant_run_await {call : Call σ} {next : call.Answer → Activity σ α}
    (hend : ∀ answer, ∃ result, next answer = .done result) (world : ω) (now : Instant) :
    ((await call next).run host world now).instant = now + host.delay world call := by
  obtain ⟨result, hresult⟩ :=
    hend (host.answer call (host.clock (now + host.delay world call)) world).1
  rw [(await_answered rfl).1, hresult]
  rfl

/-- A bounded activity that is alone in the world has ended in time. -/
theorem Bounded.run (h : a.Bounded limit Lingers) (hnow : now ≤ limit) :
    host.Due limit Lingers (a.run host world now).instant := by
  induction h generalizing world now with
  | done result => exact .inl hnow
  | look _ ih => exact ih _ hnow
  | report _ ih => exact ih hnow
  | @awaitUntil inner call _ _ hinner _ _ ih ihLate =>
    cases hin : host.inTime world call now inner with
    | true =>
      rw [(awaitUntil_answered hin rfl).1]
      exact ih _ (Host.le_of_inTime hin hnow hinner)
    | false =>
      rw [(awaitUntil_late hin).1]
      exact ihLate (Nat.max_le.mpr ⟨hnow, hinner⟩)
  | @last call _ hlingers hend =>
    exact .inr ⟨call, world, now, hlingers, hnow, instant_run_await hend world now⟩

end Activity

/-! ### Where others change the world -/

/-- An activity is resumed in time and bounded from then on. -/
def Pause.Bounded (host : Host σ ω) (limit : Instant) (Lingers : Call σ → Prop) :
    Pause σ α → Prop
  | .answer time _ next =>
    (time ≤ limit ∧ ∀ answer, (next answer).Bounded limit Lingers) ∨
      (host.Due limit Lingers time ∧ ∀ answer, ∃ result, next answer = .done result)
  | .limit time late => time ≤ limit ∧ late.Bounded limit Lingers

/-- An activity has ended, or it is resumed in time and bounded from then on. -/
def Progress.Bounded (host : Host σ ω) (limit : Instant) (Lingers : Call σ → Prop) :
    Progress σ α → Prop
  | .ended _ => True
  | .paused pause => pause.Bounded host limit Lingers

namespace Activity

variable {host : Host σ ω} {a : Activity σ α} {p : Progress σ α}

/-- How far an activity that is started at a time may have come, and when. Whenever it goes on, it
does so in any world, since others may have changed it. -/
inductive Reaches (host : Host σ ω) (a : Activity σ α) (start : Instant) :
    Progress σ α → Instant → Prop
  /-- It goes on from where it starts. -/
  | start (world : ω) : Reaches host a start (a.proceed host world start).1 start
  /-- It goes on when a wait is over. -/
  | resume {pause : Pause σ α} {now : Instant} (h : Reaches host a start (.paused pause) now)
      (world : ω) : Reaches host a start (pause.resume host world pause.time).1 pause.time

/-- A bounded activity that goes on by the limit ends or waits for no longer. -/
theorem Bounded.proceed (h : a.Bounded limit Lingers) (hnow : now ≤ limit) (world : ω) :
    (a.proceed host world now).1.Bounded host limit Lingers := by
  induction h generalizing world with
  | done result => trivial
  | look _ ih => exact ih _ world
  | report _ ih => exact ih _
  | awaitUntil hinner hnext hlate ih ihLate =>
    rw [Activity.proceed]
    split
    · exact ih _ _
    split
    · rename_i hover
      exact .inl ⟨Nat.le_trans hover hinner, hnext⟩
    split
    · exact ihLate world
    · exact ⟨hinner, hlate⟩
  | @last call next hlingers hend =>
    rw [Activity.proceed]
    split
    · obtain ⟨result, hresult⟩ := hend (host.answer call (host.clock now) world).1
      simp only [hresult, Activity.proceed]
      trivial
    · exact .inr ⟨.inr ⟨call, world, now, hlingers, hnow, rfl⟩, hend⟩

/-- Whatever others do, a bounded activity comes in time to whatever it comes to. -/
theorem Bounded.of_reaches (h : a.Bounded limit Lingers) (hstart : start ≤ limit)
    (hreaches : a.Reaches host start p now) :
    host.Due limit Lingers now ∧ p.Bounded host limit Lingers := by
  induction hreaches with
  | start world => exact ⟨.inl hstart, h.proceed hstart world⟩
  | @resume pause _ _ world ih =>
    obtain ⟨-, hpause⟩ := ih
    cases pause with
    | answer time call next =>
      rcases hpause with ⟨htime, hnext⟩ | ⟨hdue, hend⟩
      · exact ⟨.inl htime, (hnext _).proceed htime _⟩
      · refine ⟨hdue, ?_⟩
        obtain ⟨result, hresult⟩ := hend (host.answer call (host.clock time) world).1
        simp only [Pause.resume, Pause.time, hresult, Activity.proceed]
        trivial
    | limit time late =>
      obtain ⟨htime, hlate⟩ := hpause
      exact ⟨.inl htime, hlate.proceed htime world⟩

/-- An activity that is started at a time has ended by another one: when it is alone in the world,
and as far as it may have come where others change the world. -/
structure EndsBy (host : Host σ ω) (start limit : Instant) (a : Activity σ α) : Prop where
  /-- Alone in a world it has ended by then. -/
  alone : ∀ world, (a.run host world start).instant ≤ limit
  /-- Where others change the world, it comes to nothing past that time. -/
  among : ∀ p now, a.Reaches host start p now → now ≤ limit

/-- A bounded activity without a call that may linger has ended by its limit. -/
theorem Bounded.endsBy (h : a.Bounded limit fun _ => False) (hstart : start ≤ limit) :
    a.EndsBy host start limit where
  alone _ := (h.run hstart).le
  among _ _ hreaches := (h.of_reaches hstart hreaches).1.le

end Activity

end WorkspaceAccess
