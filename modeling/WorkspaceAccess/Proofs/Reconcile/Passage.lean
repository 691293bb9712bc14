import WorkspaceAccess.Proofs.Reconcile.Story

/-!
# An Activity in a World That Others Change

One activity takes its turns, at any times, and in between the world may be changed by others. Its
passage keeps what it did, the newest first. Whether a wait with a limit is answered or given up is
open at every turn, so that a passage can be cut short at any of its calls.

A passage is an interplay with one activity only, seen from that activity: how others change the
world is a relation between the world before and after, which may be as strong as that nothing
changes. So a run of an activity that is alone in the world is a passage too, and what is proved of
passages by their turns holds of runs.

The other direction is for worlds in which calls take no time and which are never left
(`Host.Prompt`). There a run does not depend on limits, and each turn in which a call is answered is
the next part of the run. This relates an activity that failed on its way to one that is tried again
from the beginning.

## Main results

* `of_turn`, `of_change`: a turn or a change by others can be put before a passage.
* `passage_run`: an activity that is alone in the world makes a passage, in which it does what its
  story tells.
* `Activity.run_within`: where calls take no time, a limit does not matter.
* `Activity.run_of_turn`: where calls take no time, a turn in which a call is answered is the next
  part of the run.
-/

namespace WorkspaceAccess

variable {σ ω α : Type}

/-- What an activity has done since it was in a world, what is left of it, and the world then. -/
inductive Passage (host : Host σ ω) (MayChange : ω → ω → Prop) (a : Activity σ α) (world : ω) :
    List (Deed σ) → Activity σ α → ω → Prop
  /-- Nothing has happened, and the activity is all before it. -/
  | start : Passage host MayChange a world [] a world
  /-- The activity takes a turn, and the world is what that makes of it. -/
  | turn {deeds : List (Deed σ)} {deed : Deed σ} {b c : Activity σ α} {between later : ω}
      (h : Passage host MayChange a world deeds b between) (now : Instant) (inTime : Bool)
      (hturn : b.turn? host now inTime between = some (c, deed, later)) :
      Passage host MayChange a world (deed :: deeds) c later
  /-- Others change the world, and the activity stays where it is. -/
  | change {deeds : List (Deed σ)} {b : Activity σ α} {between later : ω}
      (h : Passage host MayChange a world deeds b between) (hchange : MayChange between later) :
      Passage host MayChange a world deeds b later

namespace Passage

variable {host : Host σ ω} {MayChange : ω → ω → Prop} {a b c : Activity σ α}
  {deeds : List (Deed σ)} {deed : Deed σ} {world between later : ω}

/-- A turn can be taken before a passage, and its deed comes before those of the passage. -/
theorem of_turn (now : Instant) (inTime : Bool)
    (hturn : a.turn? host now inTime world = some (b, deed, between))
    (h : Passage host MayChange b between deeds c later) :
    Passage host MayChange a world (deeds ++ [deed]) c later := by
  induction h with
  | start => exact .turn .start now inTime hturn
  | turn _ now inTime hturn ih => exact ih.turn now inTime hturn
  | change _ hchange ih => exact ih.change hchange

/-- Others can change the world before a passage, in the ways that are allowed. -/
theorem of_change (hchange : MayChange world between)
    (h : Passage host MayChange a between deeds c later) :
    Passage host MayChange a world deeds c later := by
  induction h with
  | start => exact .change .start hchange
  | turn _ now inTime hturn ih => exact ih.turn now inTime hturn
  | change _ hchange ih => exact ih.change hchange

end Passage

/-- An activity that is alone in the world makes a passage, in which it does what its story
tells. -/
theorem passage_run (host : Host σ ω) (MayChange : ω → ω → Prop) (a : Activity σ α) (world : ω)
    (now : Instant) :
    Passage host MayChange a world ((a.story host world now).map (·.2)).reverse
      (.done (a.run host world now).result) (a.run host world now).world := by
  induction a generalizing world now with
  | done result => exact .start
  | look next ih =>
    rw [Activity.story, List.map_cons, List.reverse_cons]
    exact (ih _ world now).of_turn now true rfl
  | report counts next ih =>
    rw [Activity.story, List.map_cons, List.reverse_cons]
    exact (ih _ now).of_turn now true rfl
  | await call next ih =>
    obtain ⟨hrun, hstory⟩ : (Activity.await call next).run host world now = _ ∧
        (Activity.await call next).story host world now = _ := Activity.await_answered rfl
    rw [hrun, hstory, List.map_cons, List.reverse_cons]
    exact (ih _ _ _).of_turn _ true rfl
  | awaitUntil limit call next late ih ihLate =>
    cases hin : host.inTime world call now limit with
    | true =>
      obtain ⟨hrun, hstory⟩ : (Activity.awaitUntil limit call next late).run host world now = _ ∧
          (Activity.awaitUntil limit call next late).story host world now = _ :=
        Activity.awaitUntil_answered hin rfl
      rw [hrun, hstory, List.map_cons, List.reverse_cons]
      exact (ih _ _ _).of_turn _ true rfl
    | false =>
      obtain ⟨hrun, hstory⟩ : (Activity.awaitUntil limit call next late).run host world now = _ ∧
          (Activity.awaitUntil limit call next late).story host world now = _ :=
        Activity.awaitUntil_late hin
      rw [hrun, hstory, List.map_cons, List.reverse_cons]
      exact (ihLate _ _).of_turn now false rfl

/-! ### Where calls take no time -/

/-- In some worlds calls take no time, and they are not left. -/
structure Host.Prompt (host : Host σ ω) (P : ω → Prop) : Prop where
  /-- Calls take no time, as long as the world is as expected. -/
  delay {world : ω} (h : P world) (call : Call σ) : host.delay world call = 0
  /-- The world is one of them after a call as well. -/
  answer {world : ω} (h : P world) (call : Call σ) (clock : Clock) :
    P (host.answer call clock world).2
  /-- So it is after the counts of a sweep were added. -/
  report {world : ω} (h : P world) (counts : SweepCounts) : P (host.report counts world)

namespace Activity

variable {host : Host σ ω} {world later : ω}

/-- A call that takes no time is answered in time. -/
theorem inTime_of_delay {call : Call σ} (hdelay : host.delay world call = 0)
    (now limit : Instant) : host.inTime world call now limit = true := by
  simp [Host.inTime, hdelay]

/-- Where calls take no time, a limit does not matter. -/
theorem run_within {P : ω → Prop} (hprompt : host.Prompt P) (a : Activity σ α) (limit : Instant)
    (hworld : P world) (now : Instant) :
    (a.within limit).run host world now =
      let e := a.run host world now
      ⟨some e.result, e.world, e.instant⟩ := by
  have hin : ∀ {world}, P world → ∀ call now limit, host.inTime world call now limit = true :=
    fun hworld call => inTime_of_delay (hprompt.delay hworld call)
  induction a generalizing world now with
  | done result => rfl
  | look next ih => exact ih _ hworld now
  | report counts next ih => exact ih (hprompt.report hworld counts) now
  | await call next ih =>
    rw [within, (awaitUntil_answered (hin hworld call now limit) rfl).1, (await_answered rfl).1]
    exact ih _ (hprompt.answer hworld call _) _
  | awaitUntil inner call next late ih ihLate =>
    rw [(awaitUntil_answered (hin hworld call now inner) rfl).1, within]
    split
    · rw [(awaitUntil_answered (hin hworld call now inner) rfl).1]
      exact ih _ (hprompt.answer hworld call _) _
    · rw [(awaitUntil_answered (hin hworld call now limit) rfl).1]
      exact ih _ (hprompt.answer hworld call _) _

/-- Where calls take no time, a turn in which a call is answered is the next part of the run. -/
theorem run_of_turn (hdelay : ∀ call, host.delay world call = 0) {a b : Activity σ α}
    {deed : Deed σ} {now : Instant} (h : a.turn? host now true world = some (b, deed, later)) :
    a.run host world now = b.run host later now := by
  have hnow : ∀ call, now + host.delay world call = now := fun call => by
    rw [hdelay, Nat.add_zero]
  cases a with
  | done _ => cases h
  | look next | report counts next =>
    cases h
    rfl
  | await call next =>
    obtain ⟨answer, hanswer, rfl, -⟩ := turn?_await h
    rw [← hnow call] at hanswer
    rw [(await_answered hanswer).1, hnow]
  | awaitUntil limit call next late =>
    have hturn : (Activity.await call next).turn? host now true world = some (b, deed, later) := h
    obtain ⟨answer, hanswer, rfl, -⟩ := turn?_await hturn
    rw [← hnow call] at hanswer
    rw [(awaitUntil_answered (inTime_of_delay (hdelay call) now limit) hanswer).1, hnow]

end Activity

end WorkspaceAccess
