import WorkspaceAccess.Reconcile.Activity

/-!
# Activities in Progress

Several activities share one world by taking turns. An activity goes on until it has to wait for the
answer of a call, and is resumed when the call is over, or when the limit of the wait has passed. A
call has its effect when it is over, so between the beginning of a call and its effect other
activities may change the world.

`Activity.proceed` takes an activity up to its next wait, and `Pause.resume` takes it on from there.
Whether a call comes to its limit is decided when it begins, from the delay that it has then; a call
without delay does not wait at all and is part of the turn in which it is made.

## Main results

* `Activity.run_of_proceed_ended`: an activity that never has to wait ends as if it were alone in
  the world. In general the turns of an activity make up a run in a world that changes between them;
  `WorkspaceAccess.Proofs.Reconcile.Turn` and `WorkspaceAccess.Proofs.Reconcile.Interplay` speak of
  these.
-/

namespace WorkspaceAccess

/-- An activity that waits, for a call or only for the end of its patience. -/
inductive Pause (σ : Type) (α : Type) where
  /-- It waits for a call that is over at a time. -/
  | answer (time : Instant) (call : Call σ) (next : call.Answer → Activity σ α)
  /-- It waits for a limit, because the call takes longer. -/
  | limit (time : Instant) (late : Activity σ α)

/-- The time at which a waiting activity is resumed. -/
def Pause.time {σ α : Type} : Pause σ α → Instant
  | answer time .. => time
  | limit time _ => time

/-- How far an activity has come in its turn. -/
inductive Progress (σ : Type) (α : Type) where
  /-- To its end, with its result. -/
  | ended (result : α)
  /-- It waits for a call that takes time. -/
  | paused (pause : Pause σ α)

variable {σ ω α : Type}

/-- Goes on with an activity until it ends or has to wait. Calls without delay are answered on the
way. -/
def Activity.proceed (host : Host σ ω) : Activity σ α → ω → Instant → Progress σ α × ω
  | done a, world, _ => (.ended a, world)
  | look next, world, now => (next (host.clock now)).proceed host world now
  | report counts next, world, now => next.proceed host (host.report counts world) now
  | await call next, world, now =>
    if host.delay world call = 0 then
      let (r, world) := host.answer call (host.clock now) world
      (next r).proceed host world now
    else (.paused (.answer (now + host.delay world call) call next), world)
  | awaitUntil limit call next late, world, now =>
    if host.delay world call = 0 then
      let (r, world) := host.answer call (host.clock now) world
      (next r).proceed host world now
    else if now + host.delay world call ≤ limit then
      (.paused (.answer (now + host.delay world call) call next), world)
    else if limit ≤ now then late.proceed host world now
    else (.paused (.limit limit late), world)

/-- Goes on with an activity that has waited: the call has its effect now, or has been given up. -/
def Pause.resume (host : Host σ ω) (pause : Pause σ α) (world : ω) (now : Instant) :
    Progress σ α × ω :=
  match pause with
  | answer _ call next =>
    let (r, world) := host.answer call (host.clock now) world
    (next r).proceed host world now
  | limit _ late => late.proceed host world now

namespace Activity

/-- An activity that never has to wait ends as if it were alone in the world. -/
theorem run_of_proceed_ended {host : Host σ ω} {a : Activity σ α} {world later : ω}
    {now : Instant} {result : α} (h : a.proceed host world now = (.ended result, later)) :
    a.run host world now = ⟨result, later, now⟩ := by
  induction a generalizing world now with
  | done _ => cases h; rfl
  | look _ ih => exact ih _ h
  | report _ _ ih => exact ih h
  | await call next ih =>
    unfold proceed at h
    split at h
    · rename_i hd
      unfold run
      simp only [hd, Nat.add_zero]
      exact ih _ h
    · cases h
  | awaitUntil limit call next late ih ihLate =>
    unfold proceed at h
    unfold run
    split at h
    · rename_i hd
      simp only [Host.inTime, hd, Nat.add_zero, BEq.rfl, Bool.true_or, if_true]
      exact ih _ h
    · rename_i hd
      split at h
      · cases h
      · rename_i hl
        split at h
        · rename_i hn
          rw [if_neg (by simp [Host.inTime, hd, hl]), Nat.max_eq_left hn]
          exact ihLate h
        · cases h

end Activity

end WorkspaceAccess
