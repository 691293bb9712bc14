import WorkspaceAccess.Proofs.Reconcile.Turn

/-!
# The Story of a Run

The story of an activity that is alone in the world: what it does, and when it begins to. A call
that is answered begins when it is made, and is answered when its delay is over.

A run has a result, a world and a time at its end, and tells nothing of how it came there. The story
does. It has the same recursion as the run, so that one is computed along with the other, and a
statement about both is proved by induction on the activity.

The deeds of a story are those of turns: looking at the clocks, a report, a call that is answered or
given up. For a call with a limit there are two cases, by whether it is in time, and the two lemmas
for them, about the run and the story together, are what other modules use to follow a program from
call to call.

## Main results

* `await_answered`, `awaitUntil_answered`, `awaitUntil_late`: a call that is answered, answered in
  time, or given up.
* `forall_story_within_await`: what holds of the deeds of a call and of those after it, holds of all
  of them.
* `story_bind`: the story of a composed activity is that of its parts, one after the other.
* `run_of_story`: something of the world that only some deeds change stays as it is while none of
  them is done.
-/

namespace WorkspaceAccess

/-- What is done, and when it begins. -/
abbrev Story (σ : Type) := List (Instant × Deed σ)

namespace Activity

variable {σ ω α β : Type}

/-- What an activity that is alone in the world does, from a point in time. -/
def story (host : Host σ ω) : Activity σ α → ω → Instant → Story σ
  | done _, _, _ => []
  | look next, world, now => (now, .looked) :: (next (host.clock now)).story host world now
  | report counts next, world, now =>
    (now, .reported counts) :: next.story host (host.report counts world) now
  | await call next, world, now =>
    let later := now + host.delay world call
    let (r, world) := host.answer call (host.clock later) world
    (now, .answered call r) :: (next r).story host world later
  | awaitUntil limit call next late, world, now =>
    if host.inTime world call now limit then
      let later := now + host.delay world call
      let (r, world) := host.answer call (host.clock later) world
      (now, .answered call r) :: (next r).story host world later
    else (now, .gaveUp call) :: late.story host world (max now limit)

section

variable {host : Host σ ω} {call : Call σ} {next : call.Answer → Activity σ α}
  {late : Activity σ α} {world later : ω} {now limit : Instant} {r : call.Answer}

/-- A call that is answered: the run goes on with the answer when the delay is over, and the story
begins with the call. -/
theorem await_answered
    (h : host.answer call (host.clock (now + host.delay world call)) world = (r, later)) :
    (await call next).run host world now = (next r).run host later (now + host.delay world call) ∧
      (await call next).story host world now =
        (now, .answered call r) :: (next r).story host later (now + host.delay world call) := by
  rw [run, story, h]
  exact ⟨rfl, rfl⟩

/-- A call that is answered in time is waited for as it is without a limit. -/
theorem awaitUntil_inTime (hin : host.inTime world call now limit = true) :
    (awaitUntil limit call next late).run host world now = (await call next).run host world now ∧
      (awaitUntil limit call next late).story host world now =
        (await call next).story host world now :=
  ⟨if_pos hin, if_pos hin⟩

/-- A call that is answered in time goes on like one without a limit. -/
theorem awaitUntil_answered (hin : host.inTime world call now limit = true)
    (h : host.answer call (host.clock (now + host.delay world call)) world = (r, later)) :
    (awaitUntil limit call next late).run host world now =
        (next r).run host later (now + host.delay world call) ∧
      (awaitUntil limit call next late).story host world now =
        (now, .answered call r) :: (next r).story host later (now + host.delay world call) := by
  rw [(awaitUntil_inTime hin).1, (awaitUntil_inTime hin).2]
  exact await_answered h

/-- A call that is not answered in time is given up at its limit, and leaves the world as it was. -/
theorem awaitUntil_late (hin : host.inTime world call now limit = false) :
    (awaitUntil limit call next late).run host world now = late.run host world (max now limit) ∧
      (awaitUntil limit call next late).story host world now =
        (now, .gaveUp call) :: late.story host world (max now limit) := by
  rw [run, story, hin]
  exact ⟨rfl, rfl⟩

/-- What holds of the deeds of a call and of those after it, holds of all of them, also when the
call is waited for only up to a time. -/
theorem forall_story_within_await {P : Deed σ → Prop} (hanswered : ∀ r, P (.answered call r))
    (hlate : P (.gaveUp call))
    (hnext : ∀ r world now, ∀ e ∈ ((next r).within limit).story host world now, P e.2)
    (world : ω) (now : Instant) :
    ∀ e ∈ ((await call next).within limit).story host world now, P e.2 := by
  rw [within]
  cases hin : host.inTime world call now limit with
  | true =>
    rw [(awaitUntil_answered hin rfl).2]
    exact List.forall_mem_cons.mpr ⟨hanswered _, hnext _ _ _⟩
  | false =>
    rw [(awaitUntil_late hin).2]
    exact List.forall_mem_cons.mpr ⟨hlate, fun _ he => absurd he List.not_mem_nil⟩

end

/-- The story of a composed activity is that of the first part, and then that of the second one from
where the first one ended. -/
theorem story_bind (host : Host σ ω) (a : Activity σ α) (f : α → Activity σ β) (world : ω)
    (now : Instant) :
    (a.bind f).story host world now =
      let e := a.run host world now
      a.story host world now ++ (f e.result).story host e.world e.instant := by
  induction a generalizing world now with
  | done _ => rfl
  | look _ ih => exact congrArg (_ :: ·) (ih _ _ _)
  | report _ _ ih => exact congrArg (_ :: ·) (ih _ _)
  | await _ _ ih => exact congrArg (_ :: ·) (ih _ _ _)
  | awaitUntil limit call _ _ ih ihLate =>
    simp only [bind, run, story]
    split
    · exact congrArg (_ :: ·) (ih _ _ _)
    · exact congrArg (_ :: ·) (ihLate _ _)

/-- Something of the world that only some deeds change stays as it is while none of them is done. -/
theorem run_of_story {host : Host σ ω} {γ : Type} (view : ω → γ) (changes : Deed σ → Prop)
    (hreport : ∀ counts world, ¬changes (.reported counts) →
      view (host.report counts world) = view world)
    (hanswer : ∀ call clock world, ¬changes (.answered call (host.answer call clock world).1) →
      view (host.answer call clock world).2 = view world)
    (a : Activity σ α) (world : ω) (now : Instant)
    (h : ∀ e ∈ a.story host world now, ¬changes e.2) :
    view (a.run host world now).world = view world := by
  induction a generalizing world now with
  | done _ => rfl
  | look next ih => exact ih _ _ _ fun e he => h e (List.mem_cons_of_mem _ he)
  | report counts next ih =>
    exact (ih _ _ fun e he => h e (List.mem_cons_of_mem _ he)).trans
      (hreport _ _ (h _ List.mem_cons_self))
  | await call next ih =>
    exact (ih _ _ _ fun e he => h e (List.mem_cons_of_mem _ he)).trans
      (hanswer _ _ _ (h _ List.mem_cons_self))
  | awaitUntil limit call next late ih ihLate =>
    simp only [story] at h
    simp only [run]
    split at h <;> rename_i hin <;> simp only [hin, if_true, if_false, Bool.false_eq_true]
    · exact (ih _ _ _ fun e he => h e (List.mem_cons_of_mem _ he)).trans
        (hanswer _ _ _ (h _ List.mem_cons_self))
    · exact ihLate _ _ fun e he => h e (List.mem_cons_of_mem _ he)

end Activity

end WorkspaceAccess
