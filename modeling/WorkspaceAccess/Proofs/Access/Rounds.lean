import WorkspaceAccess.Proofs.Access.Leg
import WorkspaceAccess.Proofs.Reconcile.Story

/-!
# The Rounds of a Sweep

A sweep that is alone in the world goes from one listed workspace to the next, and each of them has
one of four fates: it is abandoned before its update is begun, it is updated, its update fails, or
the update is given up when the deadline passes. `Rounds` tells them in order, with what is done and
what becomes of the world, and `tally` counts what came of them.

The program writes the bindings by recursion on the workspaces that are left, with the outcome so
far as an accumulator. `Rounds` follows the recursion and drops the accumulator: it lists the
verdicts, and the outcome is what counting them gives. So what is said of all verdicts is proved by
induction on the rounds, with a case for each fate, for every host.

Whole sweeps are put together from three parts: the reads, the rounds and the finish. A sweep that
has not read what it starts from has no rounds, and what it returns is known; one that has read it
does in its rounds what `Rounds` says, and then finishes with their tally.

## Main results

* `rounds_of_run`: writing the bindings of some workspaces is to go the rounds.
* `Rounds.names`: every workspace gets its verdict, in order.
* `Rounds.abandoned_last`, `Rounds.begun_before`: what is abandoned comes last, and no update is
  begun at the deadline or after it.
* `Rounds.filterMap_updated`: the updates that are made are those of the workspaces that count as
  updated.
* `onlyReads_of_readBasis`: before its rounds a sweep only reads.
* `reconcile_of_unread`: a sweep that has not read what it starts from fails for that.
* `reconcile_of_basis`: a sweep that has read it goes its rounds and concludes.
-/

namespace WorkspaceAccess

namespace Sweep

variable {σ ω : Type}

/-- A workspace and why its binding was not written, if it was not. -/
abbrev Verdict := String × Option WorkspaceFailure

namespace Outcome

/-- An outcome with one more verdict, counted as a success or listed among the failures. -/
def add (o : Outcome) (v : Verdict) : Outcome :=
  match v.2 with
  | none => o.succeed
  | some failure => o.fail v.1 failure

end Outcome

/-- The workspaces whose bindings were written, in the order of the rounds. -/
def updatedOf (verdicts : List Verdict) : List String :=
  (verdicts.filter (·.2.isNone)).map (·.1)

/-- The workspaces whose bindings were not written, and why. -/
def failuresOf (verdicts : List Verdict) : List (String × WorkspaceFailure) :=
  verdicts.filterMap fun v => v.2.map (v.1, ·)

/-- What came of so many subjects and these verdicts. -/
def tally (subjects : Nat) (verdicts : List Verdict) : Outcome :=
  ⟨subjects, (updatedOf verdicts).length, failuresOf verdicts⟩

/-- Adding verdicts one by one counts those that succeeded and lists the failures behind the ones
before. By induction on the verdicts. -/
theorem foldl_add (verdicts : List Verdict) (o : Outcome) :
    verdicts.foldl Outcome.add o = ⟨o.subjects, o.updated + (updatedOf verdicts).length,
      o.failures ++ failuresOf verdicts⟩ := by
  induction verdicts generalizing o with
  | nil => simp [updatedOf, failuresOf]
  | cons v rest ih =>
    obtain ⟨name, verdict⟩ := v
    cases verdict with
    | none =>
      simp [ih, Outcome.add, Outcome.succeed, updatedOf, failuresOf]
      omega
    | some failure => simp [ih, Outcome.add, Outcome.fail, updatedOf, failuresOf]

/-! ### The rounds -/

section

variable (host : Host σ ω) (session : σ) (subjects : List String) (deadline : Instant)

/-- The rounds over some workspaces, from a world and a point in time: the verdicts, what is done,
and the world and the time at the end. -/
inductive Rounds : List WorkspaceInfo → ω → Instant → List Verdict → Story σ → ω → Instant → Prop
  /-- No workspace is left, and nothing more happens. -/
  | done {world : ω} {now : Instant} : Rounds [] world now [] [] world now
  /-- The deadline has passed, and the workspace is abandoned without a call. -/
  | abandon {ws : WorkspaceInfo} {left : List WorkspaceInfo} {world later : ω}
      {now finish : Instant} {verdicts : List Verdict} {story : Story σ} (hlate : deadline ≤ now)
      (hrest : Rounds left world now verdicts story later finish) :
      Rounds (ws :: left) world now ((ws.name, some .abandoned) :: verdicts)
        ((now, .looked) :: story) later finish
  /-- The binding is written in time, and the rounds go on. -/
  | update {ws : WorkspaceInfo} {left : List WorkspaceInfo} {world next later : ω}
      {now answered finish : Instant} {verdicts : List Verdict} {story : Story σ}
      (hsoon : now < deadline) (hafter : now ≤ answered)
      (hanswer : host.answer (.writeBinding session ws.name subjects) (host.clock answered) world =
        (.ok (), next))
      (hrest : Rounds left next answered verdicts story later finish) :
      Rounds (ws :: left) world now ((ws.name, none) :: verdicts)
        ((now, .looked) :: (now, .answered (.writeBinding session ws.name subjects) (.ok ())) ::
          story) later finish
  /-- The binding cannot be written, and the rounds go on. -/
  | refuse {ws : WorkspaceInfo} {left : List WorkspaceInfo} {world next later : ω}
      {now answered finish : Instant} {e : RemoteError} {verdicts : List Verdict}
      {story : Story σ} (hsoon : now < deadline) (hafter : now ≤ answered)
      (hanswer : host.answer (.writeBinding session ws.name subjects) (host.clock answered) world =
        (.error e, next))
      (hrest : Rounds left next answered verdicts story later finish) :
      Rounds (ws :: left) world now ((ws.name, some (.remote e)) :: verdicts)
        ((now, .looked) :: (now, .answered (.writeBinding session ws.name subjects) (.error e)) ::
          story) later finish
  /-- The write is given up when the deadline passes. -/
  | giveUp {ws : WorkspaceInfo} {left : List WorkspaceInfo} {world later : ω}
      {now finish : Instant} {verdicts : List Verdict} {story : Story σ} (hsoon : now < deadline)
      (hrest : Rounds left world deadline verdicts story later finish) :
      Rounds (ws :: left) world now ((ws.name, some .abandoned) :: verdicts)
        ((now, .looked) :: (now, .gaveUp (.writeBinding session ws.name subjects)) :: story) later
        finish

/-- Writing the bindings of some workspaces is to go the rounds. -/
theorem rounds_of_run (basis : Basis σ) (left : List WorkspaceInfo) (o : Outcome) (world : ω)
    (now : Instant) :
    let writes := writeBindings basis.session (Roster.subjects basis.members) deadline left o
    ∃ verdicts later finish,
      Rounds host basis.session (Roster.subjects basis.members) deadline left world now verdicts
        (writes.story host world now) later finish ∧
      writes.run host world now = ⟨verdicts.foldl Outcome.add o, later, finish⟩ := by
  -- Whatever becomes of one workspace, the rest is the same run with another outcome, from the
  -- world and the time that this leaves.
  induction left generalizing o world now with
  | nil => exact ⟨[], world, now, .done, rfl⟩
  | cons ws left ih =>
    simp only [Leg.writeBindings_cons, Activity.story, Activity.run]
    split
    · rename_i hlate
      obtain ⟨verdicts, later, finish, hrounds, hrun⟩ := ih (o.fail ws.name .abandoned) world now
      exact ⟨_, later, finish, .abandon hlate hrounds, hrun⟩
    · rename_i hlate
      have hsoon : now < deadline := Nat.lt_of_not_le hlate
      let call : Call σ := .writeBinding basis.session ws.name (Roster.subjects basis.members)
      cases hin : host.inTime world call now deadline with
      | true =>
        have hafter : now ≤ now + host.delay world call := Nat.le_add_right _ _
        rcases hanswered : host.answer call (host.clock (now + host.delay world call)) world with
          ⟨answer, next⟩
        obtain ⟨hrun, hstory⟩ := Activity.awaitUntil_answered hin hanswered
        rw [Leg.writeNext, hrun, hstory]
        cases answer with
        | ok _ =>
          obtain ⟨verdicts, later, finish, hrounds, hresult⟩ := ih o.succeed next _
          exact ⟨_, later, finish, .update hsoon hafter hanswered hrounds, hresult⟩
        | error e =>
          obtain ⟨verdicts, later, finish, hrounds, hresult⟩ :=
            ih (o.fail ws.name (.remote e)) next _
          exact ⟨_, later, finish, .refuse hsoon hafter hanswered hrounds, hresult⟩
      | false =>
        obtain ⟨hrun, hstory⟩ := Activity.awaitUntil_late hin
        rw [Leg.writeNext, hrun, hstory, Nat.max_eq_right (Nat.le_of_lt hsoon)]
        obtain ⟨verdicts, later, finish, hrounds, hresult⟩ :=
          ih (o.fail ws.name .abandoned) world deadline
        exact ⟨_, later, finish, .giveUp hsoon hrounds, hresult⟩

end

/-! ### What is done in the rounds -/

/-- The workspace whose update is begun by a deed, whether it is answered or given up. -/
def begun? : Deed σ → Option String
  | .answered (.writeBinding _ ws _) _ => some ws
  | .gaveUp (.writeBinding _ ws _) => some ws
  | _ => none

/-- The workspace that is updated by a deed, if the write of its binding succeeded. -/
def updated? : Deed σ → Option String
  | .answered (.writeBinding _ ws _) (.ok _) => some ws
  | _ => none

/-- Annotations are added to a staff member by a deed, and these are the ones. -/
def patches? : Deed σ → Option (ResourceId × Annotations)
  | .answered (.patchStaff id annotations) _ => some (id, annotations)
  | _ => none

/-- Neither is an update begun nor are annotations added. -/
structure OnlyReads (deed : Deed σ) : Prop where
  /-- No update of a workspace is begun by it. -/
  begun : begun? deed = none
  /-- No workspace is updated by it. -/
  updated : updated? deed = none
  /-- No annotations are added to a member by it. -/
  patches : patches? deed = none

section

variable {host : Host σ ω} {session : σ} {subjects : List String} {deadline : Instant}
  {left : List WorkspaceInfo} {world later : ω} {now finish : Instant} {verdicts : List Verdict}
  {story : Story σ}

/-- Every workspace that is left gets its verdict, in the order of the listing. -/
theorem Rounds.names
    (h : Rounds host session subjects deadline left world now verdicts story later finish) :
    verdicts.map (·.1) = left.map (·.name) := by
  induction h with
  | done => rfl
  | abandon _ _ ih | update _ _ _ _ ih | refuse _ _ _ _ ih | giveUp _ _ ih =>
    exact congrArg (_ :: ·) ih

/-- Once the deadline has passed, everything that is left is abandoned, without a call for it. -/
theorem Rounds.abandoned_of_late
    (h : Rounds host session subjects deadline left world now verdicts story later finish)
    (hlate : deadline ≤ now) : ∀ v ∈ verdicts, v.2 = some .abandoned := by
  induction h with
  | done => exact fun _ hv => absurd hv List.not_mem_nil
  | abandon _ _ ih => exact List.forall_mem_cons.mpr ⟨rfl, ih hlate⟩
  | update hsoon | refuse hsoon | giveUp hsoon => exact absurd hlate (Nat.not_le_of_lt hsoon)

/-- What is abandoned comes last, since a deadline that has passed does not come back. By induction
on the rounds. -/
theorem Rounds.abandoned_last
    (h : Rounds host session subjects deadline left world now verdicts story later finish) :
    ∃ front back, verdicts = front ++ back ∧ (∀ v ∈ front, v.2 ≠ some .abandoned) ∧
      ∀ v ∈ back, v.2 = some .abandoned := by
  induction h with
  | done => exact ⟨[], [], rfl, nofun, nofun⟩
  | abandon hlate hrest =>
    exact ⟨[], _, rfl, nofun, List.forall_mem_cons.mpr ⟨rfl, hrest.abandoned_of_late hlate⟩⟩
  | giveUp hsoon hrest =>
    exact ⟨[], _, rfl, nofun,
      List.forall_mem_cons.mpr ⟨rfl, hrest.abandoned_of_late (Nat.le_refl _)⟩⟩
  | update _ _ _ _ ih | refuse _ _ _ _ ih =>
    obtain ⟨front, back, rfl, hfront, hback⟩ := ih
    exact ⟨_ :: front, back, rfl, List.forall_mem_cons.mpr ⟨nofun, hfront⟩, hback⟩

/-- No update is begun at the deadline or after it. -/
theorem Rounds.begun_before
    (h : Rounds host session subjects deadline left world now verdicts story later finish) :
    ∀ e ∈ story, ∀ ws, begun? e.2 = some ws → e.1 < deadline := by
  induction h with
  | done => exact fun _ he => absurd he List.not_mem_nil
  | abandon _ _ ih => exact List.forall_mem_cons.mpr ⟨nofun, ih⟩
  | update hsoon _ _ _ ih | refuse hsoon _ _ _ ih | giveUp hsoon _ ih =>
    exact List.forall_mem_cons.mpr ⟨nofun, List.forall_mem_cons.mpr ⟨fun _ _ => hsoon, ih⟩⟩

/-- The updates that are made are those of the workspaces that count as updated. -/
theorem Rounds.filterMap_updated
    (h : Rounds host session subjects deadline left world now verdicts story later finish) :
    story.filterMap (updated? ·.2) = updatedOf verdicts := by
  induction h with
  | done => rfl
  | abandon _ _ ih | refuse _ _ _ _ ih | giveUp _ _ ih => exact ih
  | update _ _ _ _ ih => exact congrArg (_ :: ·) ih

/-- In the rounds a sweep only looks at the clocks and writes bindings. -/
theorem Rounds.looks_or_begins
    (h : Rounds host session subjects deadline left world now verdicts story later finish) :
    ∀ e ∈ story, e.2 = .looked ∨ ∃ ws, begun? e.2 = some ws := by
  induction h with
  | done => exact fun _ he => absurd he List.not_mem_nil
  | abandon _ _ ih => exact List.forall_mem_cons.mpr ⟨.inl rfl, ih⟩
  | update _ _ _ _ ih | refuse _ _ _ _ ih | giveUp _ _ ih =>
    exact List.forall_mem_cons.mpr ⟨.inl rfl, List.forall_mem_cons.mpr ⟨.inr ⟨_, rfl⟩, ih⟩⟩

end

/-! ### Before and after the rounds -/

section

variable {host : Host σ ω} {deadline : Instant} {world : ω} {now : Instant}

/-- Before its rounds a sweep only reads, so that it can fail there without having changed
anything. -/
theorem onlyReads_of_readBasis :
    ∀ e ∈ ((readBasis : Activity σ _).within deadline).story host world now, OnlyReads e.2 := by
  have hnil (result : Except Failure (Basis σ)) (world : ω) (now : Instant) :
      ∀ e ∈ ((Activity.done result : Activity σ _).within deadline).story host world now,
        OnlyReads e.2 :=
    fun _ he => absurd he List.not_mem_nil
  refine Activity.forall_story_within_await (P := OnlyReads) (fun _ => ⟨rfl, rfl, rfl⟩)
    ⟨rfl, rfl, rfl⟩ ?_ _ _
  rintro (e | session)
  · exact hnil _
  refine Activity.forall_story_within_await (P := OnlyReads) (fun _ => ⟨rfl, rfl, rfl⟩)
    ⟨rfl, rfl, rfl⟩ ?_
  rintro (e | workspaces)
  · exact hnil _
  refine Activity.forall_story_within_await (P := OnlyReads) (fun _ => ⟨rfl, rfl, rfl⟩)
    ⟨rfl, rfl, rfl⟩ ?_
  rintro (e | members)
  · exact hnil _
  · exact hnil _

/-- Rebuilding the bindings is to read and to write. -/
theorem rebuild_eq (deadline : Instant) :
    (rebuild deadline : Activity σ _) = (readBasis.within deadline).bind (build deadline) := by
  refine congrArg (Activity.bind _) (funext fun reads => ?_)
  rcases reads with _ | _ | _ <;> rfl

/-- What is rebuilt without having read what to start from. -/
theorem run_rebuild_of_unread (host : Host σ ω) (deadline : Instant) (world : ω) (now : Instant) :
    let read := (readBasis.within deadline).run host world now
    let rebuilt := (rebuild deadline : Activity σ _).run host world now
    (read.result = none → rebuilt = ⟨.error .timeout, read.world, read.instant⟩) ∧
      ∀ e, read.result = some (.error e) → rebuilt = ⟨.error e, read.world, read.instant⟩ := by
  intro read rebuilt
  have hrebuilt : rebuilt = (build deadline read.result).run host read.world read.instant := by
    rw [← Activity.run_bind, ← rebuild_eq]
  rw [hrebuilt]
  constructor
  · intro h
    rw [h]
    rfl
  · intro e h
    rw [h]
    rfl

/-- A sweep ends where the bindings cannot be rebuilt, and otherwise finishes with the outcome. -/
theorem run_reconcile (host : Host σ ω) (trigger : Trigger) (deadline : Instant) (world : ω)
    (now : Instant) :
    let rebuilt := (rebuild deadline : Activity σ _).run host world now
    let ended := (reconcile trigger deadline).run host world now
    (∀ e, rebuilt.result = .error e → ended = ⟨.error e, rebuilt.world, rebuilt.instant⟩) ∧
      ∀ o, rebuilt.result = .ok o →
        ended = (finish trigger o).run host rebuilt.world rebuilt.instant := by
  intro rebuilt ended
  have hended : ended = ((rebuild deadline).andThen (finish trigger)).run host world now := rfl
  rw [Activity.andThen, Activity.run_bind] at hended
  constructor
  · intro e h
    rw [hended]
    simp only [show ((rebuild deadline).run host world now).result = .error e from h]
    rfl
  · intro o h
    rw [hended]
    simp only [show ((rebuild deadline).run host world now).result = .ok o from h]
    rfl

/-- A sweep that has not read what it starts from fails. -/
theorem reconcile_of_unread (host : Host σ ω) (trigger : Trigger) (deadline : Instant) (world : ω)
    (now : Instant) :
    let read := (readBasis.within deadline).run host world now
    let ended := (reconcile trigger deadline).run host world now
    (read.result = none → ended = ⟨.error .timeout, read.world, read.instant⟩) ∧
      ∀ e, read.result = some (.error e) → ended = ⟨.error e, read.world, read.instant⟩ := by
  intro read ended
  obtain ⟨hlate, hfails⟩ := run_rebuild_of_unread host deadline world now
  obtain ⟨hended, -⟩ := run_reconcile host trigger deadline world now
  constructor
  · intro h
    rw [hlate h] at hended
    exact hended _ rfl
  · intro e h
    rw [hfails e h] at hended
    exact hended _ rfl

/-- What is rebuilt from what was read: the verdicts of the rounds are counted. -/
theorem rebuild_of_basis {basis : Basis σ}
    (h : ((readBasis.within deadline).run host world now).result = some (.ok basis)) :
    let read := (readBasis.within deadline).run host world now
    let subjects := Roster.subjects basis.members
    ∃ verdicts story written ended,
      Rounds host basis.session subjects deadline basis.workspaces read.world read.instant verdicts
        story written ended ∧
      (rebuild deadline).run host world now =
        ⟨.ok (tally subjects.length verdicts), written, ended⟩ ∧
      (rebuild deadline).story host world now =
        (readBasis.within deadline).story host world now ++ story := by
  intro read subjects
  obtain ⟨verdicts, written, ended, hrounds, hrun⟩ := rounds_of_run host deadline basis
    basis.workspaces ⟨subjects.length, 0, []⟩ read.world read.instant
  have htally : verdicts.foldl Outcome.add ⟨subjects.length, 0, []⟩ =
      tally subjects.length verdicts := by
    rw [foldl_add, tally, Nat.zero_add, List.nil_append]
  rw [htally] at hrun
  refine ⟨verdicts, _, written, ended, hrounds, ?_⟩
  simp only [rebuild_eq, Activity.map, Activity.run_bind, Activity.story_bind, h, build]
  rw [hrun]
  simp only [Activity.run, Activity.story, List.append_nil, subjects, read, and_self]

/-- A sweep that has read what it starts from goes its rounds and concludes. -/
theorem reconcile_of_basis (trigger : Trigger) {basis : Basis σ}
    (h : ((readBasis.within deadline).run host world now).result = some (.ok basis)) :
    let read := (readBasis.within deadline).run host world now
    let subjects := Roster.subjects basis.members
    ∃ verdicts story written ended,
      Rounds host basis.session subjects deadline basis.workspaces read.world read.instant verdicts
        story written ended ∧
      let last := finish trigger (tally subjects.length verdicts)
      (reconcile trigger deadline).run host world now = last.run host written ended ∧
      (reconcile trigger deadline).story host world now =
        (readBasis.within deadline).story host world now ++ story ++
          last.story host written ended := by
  intro read subjects
  obtain ⟨verdicts, story, written, ended, hrounds, hrun, hstory⟩ := rebuild_of_basis h
  have hreconcile : (reconcile trigger deadline : Activity σ _) =
      (rebuild deadline).andThen (finish trigger) := rfl
  refine ⟨verdicts, story, written, ended, hrounds, ?_⟩
  rw [hreconcile, Activity.andThen, Activity.run_bind, Activity.story_bind, hrun, hstory]
  exact ⟨rfl, rfl⟩

end

end Sweep

end WorkspaceAccess
