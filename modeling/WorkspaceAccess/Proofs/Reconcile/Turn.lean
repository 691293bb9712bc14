import WorkspaceAccess.Reconcile.Progress

/-!
# Turns of Activities

The atomic step of an activity is its *turn*: it looks at the clocks, or adds to the metrics, or a
call is answered, or it gives a call up. Between two turns of one activity others may take theirs
and the world may be changed from outside. Nothing is said about how long calls take, so that the
turns of several activities interleave in every order, and a wait with a limit may be answered or
given up.

A call changes the world at the moment at which it is answered. That is one atomic step: a request
reaches its server at some time between its being sent and the arrival of its answer, and which time
that is cannot be told apart by anyone else.

What an activity does without a break, and how it goes on after a wait, are sequences of turns. So
whatever is proved about all orders of turns holds for the orders that a simulation takes, in which
an activity goes on until it has to wait. A world that holds another one is as good as that one
where it answers the same (`Host.Views`), and a world may follow another one step by step while only
related to it (`Host.Shadows`).

## Main results

* `turn?_await`, `turn?_awaitUntil`, `turn?_of_answer`: what the turn of a call is.
* `Host.Views.answered`: a call that is answered is answered in the inner world.
* `Turns.shadow`: the turns of an activity can be taken in a world that shadows its own.
* `turns_proceed`, `turns_resume`: an activity that goes on until it has to wait takes turns.
-/

namespace WorkspaceAccess

/-- What an activity does in a turn. -/
inductive Deed (σ : Type) where
  /-- It looks at the clocks, of the calendar and of durations. -/
  | looked
  /-- It adds the counts of a sweep to the metrics. -/
  | reported (counts : SweepCounts)
  /-- A call is answered in time, in this way. -/
  | answered (call : Call σ) (answer : call.Answer)
  /-- It no longer waits for the answer to a call. -/
  | gaveUp (call : Call σ)

variable {σ ω α : Type}

/-- What is left of an activity after a turn, what it did, and the world afterwards; none at its
end. A call with a limit is answered when it is in time. -/
def Activity.turn? (host : Host σ ω) (now : Instant) (inTime : Bool) :
    Activity σ α → ω → Option (Activity σ α × Deed σ × ω)
  | .done _, _ => none
  | .look next, world => some (next (host.clock now), .looked, world)
  | .report counts next, world => some (next, .reported counts, host.report counts world)
  | .await call next, world =>
    let (answer, world) := host.answer call (host.clock now) world
    some (next answer, .answered call answer, world)
  | .awaitUntil _ call next late, world =>
    if inTime then
      let (answer, world) := host.answer call (host.clock now) world
      some (next answer, .answered call answer, world)
    else some (late, .gaveUp call, world)

namespace Activity

variable {host : Host σ ω} {now limit : Instant} {inTime : Bool} {call : Call σ}
  {next : call.Answer → Activity σ α} {late a : Activity σ α} {deed : Deed σ} {world later : ω}

/-- A call that is waited for is answered when the turn is taken, whatever the time is. -/
theorem turn?_await (h : (await call next).turn? host now inTime world = some (a, deed, later)) :
    ∃ answer, host.answer call (host.clock now) world = (answer, later) ∧ a = next answer ∧
      deed = .answered call answer := by
  cases h
  exact ⟨_, rfl, rfl, rfl⟩

/-- A call that is waited for up to a time is answered or given up. -/
theorem turn?_awaitUntil
    (h : (awaitUntil limit call next late).turn? host now inTime world = some (a, deed, later)) :
    (∃ answer, host.answer call (host.clock now) world = (answer, later) ∧ a = next answer ∧
      deed = .answered call answer) ∨ (a = late ∧ deed = .gaveUp call ∧ later = world) := by
  cases inTime with
  | true =>
    cases h
    exact .inl ⟨_, rfl, rfl, rfl⟩
  | false =>
    cases h
    exact .inr ⟨rfl, rfl, rfl⟩

/-- An answer in time ends the wait for it. -/
theorem turn?_of_answer {answer : call.Answer}
    (h : host.answer call (host.clock now) world = (answer, later)) :
    (awaitUntil limit call next late).turn? host now true world =
      some (next answer, .answered call answer, later) := by
  simp only [turn?, if_true, h]

end Activity

/-- A world holds another one, and whatever a call does in the first one it does in the second. -/
structure Host.Views {υ : Type} (host : Host σ ω) (inner : Host σ υ) (view : ω → υ) : Prop where
  /-- Calls are answered the same, and the part that is seen changes the same. -/
  answer {call : Call σ} {clock : Clock} {answer : call.Answer} {world later : ω}
    (h : host.answer call clock world = (answer, later)) :
    inner.answer call clock (view world) = (answer, view later)
  /-- The counts of a sweep are added to the same metrics. -/
  report (counts : SweepCounts) (world : ω) :
    view (host.report counts world) = inner.report counts (view world)
  /-- The clock of the calendar is the same. -/
  wall : host.wall = inner.wall

namespace Host.Views

variable {υ : Type} {host : Host σ ω} {inner : Host σ υ} {view : ω → υ}

/-- A host and the one that it views show the same time. -/
theorem clock (h : host.Views inner view) (now : Instant) : host.clock now = inner.clock now := by
  rw [Host.clock, Host.clock, h.wall]

/-- A call that is answered is answered in the inner world. -/
theorem answered (h : host.Views inner view) {call : Call σ} {now : Instant}
    {answer : call.Answer} {world later : ω}
    (hanswer : host.answer call (host.clock now) world = (answer, later)) :
    inner.answer call (inner.clock now) (view world) = (answer, view later) :=
  h.clock now ▸ h.answer hanswer

end Host.Views

/-- What is left of an activity after some turns at one time with nothing in between. -/
inductive Turns (host : Host σ ω) (now : Instant) :
    Activity σ α → ω → Activity σ α → ω → Prop
  /-- It has not taken a turn. -/
  | refl (a : Activity σ α) (world : ω) : Turns host now a world a world
  /-- It takes a first turn, and then more. -/
  | step {a b c : Activity σ α} {deed : Deed σ} {world between later : ω} (inTime : Bool)
      (hturn : a.turn? host now inTime world = some (b, deed, between))
      (hrest : Turns host now b between c later) : Turns host now a world c later

/-- Whatever is done in one world can be done in another one, which stays related to it. -/
structure Host.Shadows {υ : Type} (host : Host σ ω) (other : Host σ υ) (R : ω → υ → Prop) :
    Prop where
  /-- Calls are answered the same in the world and in its shadow. -/
  answer {call : Call σ} {clock : Clock} {answer : call.Answer} {world later : ω} {shadow : υ} :
    R world shadow → host.answer call clock world = (answer, later) →
    ∃ next, other.answer call clock shadow = (answer, next) ∧ R later next
  /-- The counts of a sweep may be added. -/
  report {world : ω} {shadow : υ} (counts : SweepCounts) :
    R world shadow → R (host.report counts world) (other.report counts shadow)
  /-- The clock of the calendar is the same. -/
  wall : host.wall = other.wall

/-- The turns of an activity can be taken in the other world as well. -/
theorem Turns.shadow {υ : Type} {host : Host σ ω} {other : Host σ υ} {R : ω → υ → Prop}
    (hshadows : host.Shadows other R) {now : Instant} {a b : Activity σ α} {world later : ω}
    {shadow : υ} (hR : R world shadow) (h : Turns host now a world b later) :
    ∃ next, Turns other now a shadow b next ∧ R later next := by
  have hclock : host.clock now = other.clock now := by
    rw [Host.clock, Host.clock, hshadows.wall]
  induction h generalizing shadow with
  | refl a world => exact ⟨shadow, .refl _ _, hR⟩
  | @step a b c deed world between later inTime hturn _ ih =>
    obtain ⟨middle, hmiddle, hRmiddle⟩ : ∃ middle,
        a.turn? other now inTime shadow = some (b, deed, middle) ∧ R between middle := by
      cases a with
      | done => cases hturn
      | look next =>
        cases hturn
        exact ⟨shadow, by rw [hclock]; rfl, hR⟩
      | report counts next =>
        cases hturn
        exact ⟨_, rfl, hshadows.report counts hR⟩
      | await call next =>
        obtain ⟨answer, hanswer, rfl, rfl⟩ := Activity.turn?_await hturn
        obtain ⟨middle, hother, hRmiddle⟩ := hshadows.answer hR hanswer
        refine ⟨middle, ?_, hRmiddle⟩
        rw [Activity.turn?, ← hclock, hother]
      | awaitUntil limit call next late =>
        cases inTime with
        | false =>
          cases hturn
          exact ⟨shadow, rfl, hR⟩
        | true =>
          cases hturn
          obtain ⟨middle, hother, hRmiddle⟩ := hshadows.answer hR
            (rfl : host.answer call (host.clock now) world = (_, _))
          refine ⟨middle, ?_, hRmiddle⟩
          rw [Activity.turn?, if_pos rfl, ← hclock, hother]
    obtain ⟨next, hrest, hRlater⟩ := ih hRmiddle
    exact ⟨next, .step inTime hmiddle hrest, hRlater⟩

/-- A wait is at the call of an activity. -/
def Pause.IsAt : Pause σ α → Activity σ α → Prop
  | .answer _ call next, a =>
    a = .await call next ∨ ∃ limit late, a = .awaitUntil limit call next late
  | .limit _ late, a => ∃ limit call next, a = .awaitUntil limit call next late

/-- An activity has come to its end, or it waits. -/
def Progress.IsAt : Progress σ α → Activity σ α → Prop
  | .ended result, a => a = .done result
  | .paused pause, a => pause.IsAt a

/-- An activity that goes on until it has to wait takes turns. -/
theorem turns_proceed {host : Host σ ω} {now : Instant} {p : Progress σ α} {later : ω}
    (a : Activity σ α) {world : ω} (h : a.proceed host world now = (p, later)) :
    ∃ b, Turns host now a world b later ∧ p.IsAt b := by
  induction a generalizing world with
  | done result =>
    cases h
    exact ⟨_, .refl _ _, rfl⟩
  | look next ih =>
    obtain ⟨b, hrest, hb⟩ := ih _ h
    exact ⟨b, .step true rfl hrest, hb⟩
  | report counts next ih =>
    obtain ⟨b, hrest, hb⟩ := ih h
    exact ⟨b, .step true rfl hrest, hb⟩
  | await call next ih =>
    rw [Activity.proceed] at h
    split at h
    · obtain ⟨b, hrest, hb⟩ := ih _ h
      exact ⟨b, .step true rfl hrest, hb⟩
    · cases h
      exact ⟨_, .refl _ _, .inl rfl⟩
  | awaitUntil limit call next late ih ihLate =>
    rw [Activity.proceed] at h
    split at h
    · obtain ⟨b, hrest, hb⟩ := ih _ h
      exact ⟨b, .step true rfl hrest, hb⟩
    split at h
    · cases h
      exact ⟨_, .refl _ _, .inr ⟨limit, late, rfl⟩⟩
    split at h
    · obtain ⟨b, hrest, hb⟩ := ihLate h
      exact ⟨b, .step false rfl hrest, hb⟩
    · cases h
      exact ⟨_, .refl _ _, limit, call, next, rfl⟩

/-- An activity that goes on after a wait takes turns. -/
theorem turns_resume {host : Host σ ω} {now : Instant} {p : Progress σ α} {later world : ω}
    {pause : Pause σ α} {a : Activity σ α} (ha : pause.IsAt a)
    (h : pause.resume host world now = (p, later)) :
    ∃ b, Turns host now a world b later ∧ p.IsAt b := by
  cases pause with
  | answer time call next =>
    obtain ⟨b, hrest, hb⟩ := turns_proceed _ h
    rcases ha with rfl | ⟨limit, late, rfl⟩
    · exact ⟨b, .step true rfl hrest, hb⟩
    · exact ⟨b, .step true rfl hrest, hb⟩
  | limit time late =>
    obtain ⟨b, hrest, hb⟩ := turns_proceed _ h
    obtain ⟨limit, call, next, rfl⟩ := ha
    exact ⟨b, .step false rfl hrest, hb⟩

end WorkspaceAccess
