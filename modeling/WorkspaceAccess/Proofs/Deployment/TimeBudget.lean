import WorkspaceAccess.Access.Sweep
import WorkspaceAccess.Proofs.Reconcile.Bounded
import WorkspaceAccess.Reconcile.World
import WorkspaceAccess.Workspace.Lifecycle

/-!
# The Time Budget of a Reconcile

A reconcile that is started by its deadline has ended by then, however long its calls take, if it is
one of a project or a sweep that no staff member triggered. The record on the member who triggered a
sweep is begun by the deadline and waited for as long as it takes: the sweep ends by the deadline
just when there is nothing to record or the record fits into the time that is left
(`Sweep.reconciles_end_by_their_deadline`), and else it does not
(`Sweep.slow_records_outlast_the_deadline`).

What is proved about a reconcile by its program alone is that it is bounded (`Activity.Bounded`): no
call is waited for past the limit, but for one that may linger, which is the last. From this it
follows when a run ends, and it follows as well where others change the world while the reconcile
waits. So the statements hold in any world and for any answers, and the time that calls take is a
parameter of the host.

Only one call of a sweep lingers, and only when a member triggered it. How long it takes is the
delay of that call in the world as it is then (`recordDelay`), so that the condition under which the
sweep ends in time can be given exactly.

## Main results

* `Lifecycle.bounded_reconcile`, `bounded_reconcile_workspaces`: these wait for no call past their
  deadline.
* `bounded_reconcile_staffMember`: a sweep that a staff member triggered waits past its deadline for
  no other call than the record, which is its last one.
* `instant_of_rebuild_ok`: a sweep that has an outcome ends when it has recorded it.
* `reconciles_end_by_their_deadline`: when each kind of reconcile ends.
* `hanging_calls_are_given_up`, `slow_records_outlast_the_deadline`: slow calls of each kind.
-/

namespace WorkspaceAccess

variable {σ ω : Type}

/-- A reconcile of a project waits for no call past its deadline. -/
theorem Lifecycle.bounded_reconcile (config : Config) (id : ResourceId) (deadline : Instant) :
    (reconcile config id deadline : Activity σ _).Bounded deadline fun _ => False := by
  refine (Activity.bounded_within _ deadline).bind fun result => ?_
  cases result with
  | some result => exact .done _
  | none => exact .done _

namespace Sweep

/-! ### Sweeps are bounded -/

/-- Writing the bindings of workspaces waits for no call past the deadline. -/
theorem bounded_writeBindings (session : σ) (subjects : List String) (deadline : Instant)
    (left : List WorkspaceInfo) (o : Outcome) :
    (writeBindings session subjects deadline left o).Bounded deadline fun _ => False := by
  induction left generalizing o with
  | nil => exact .done o
  | cons ws left ih =>
    refine .look fun clock => ?_
    split
    · exact ih _
    · refine .awaitUntil (Nat.le_refl _) (fun answer => ?_) (ih _)
      cases answer with
      | ok _ => exact ih _
      | error e => exact ih _

/-- Neither does rebuilding the bindings of all workspaces wait beyond the deadline, as each write
is given up when it passes. -/
theorem bounded_rebuild (deadline : Instant) :
    (rebuild deadline : Activity σ _).Bounded deadline fun _ => False := by
  refine (Activity.bounded_within _ deadline).bind fun reads => ?_
  cases reads with
  | none => exact .done _
  | some reads =>
    cases reads with
    | error failure => exact .done _
    | ok basis => exact (bounded_writeBindings ..).bind fun o => .done _

/-- A sweep that no staff member triggered waits for no call past its deadline. -/
theorem bounded_reconcile_workspaces (deadline : Instant) :
    (reconcile .workspaces deadline : Activity σ _).Bounded deadline fun _ => False := by
  refine (bounded_rebuild deadline).bind fun result => ?_
  cases result with
  | error failure => exact .done _
  | ok o => exact .report (.done _)

/-- What a sweep ends with when it has recorded its outcome. -/
def recorded (o : Outcome) : Except ApiError Bool → Except Failure Action
  | .error e => .error (.status e)
  | .ok _ => conclude o

/-- Recording the outcome is the last call of a sweep. -/
theorem recordStatus_andThen (id : ResourceId) (o : Outcome) :
    ((recordStatus id o).andThen fun _ => .done (conclude o) : Activity σ (Except Failure Action)) =
      .look fun clock => .await (.patchStaff id (statusAnnotations o clock.wall)) fun answer =>
        .done (recorded o answer) := by
  refine congrArg Activity.look (funext fun clock => ?_)
  refine congrArg (Activity.await _) (funext fun answer => ?_)
  cases answer <;> rfl

/-- A sweep that a staff member triggered waits past its deadline for no other call than the record
on this member, which is its last one. -/
theorem bounded_reconcile_staffMember (id : ResourceId) (deadline : Instant) :
    (reconcile (.staffMember id) deadline : Activity σ _).Bounded deadline
      fun call => ∃ annotations, call = .patchStaff id annotations := by
  refine (bounded_rebuild deadline).bind fun result => ?_
  cases result with
  | error failure => exact .done _
  | ok o =>
    refine .report ?_
    dsimp only
    rw [recordStatus_andThen]
    exact .look fun clock => .last ⟨_, rfl⟩ fun answer => ⟨_, rfl⟩

/-! ### The record -/

/-- How long it takes to record an outcome on a staff member. -/
def recordDelay (host : Host σ ω) (id : ResourceId) (o : Outcome) (world : ω) (now : Instant) :
    Nat :=
  host.delay (host.report o.counts world) (.patchStaff id (statusAnnotations o (host.wall now)))

section

variable {host : Host σ ω} {id : ResourceId} {deadline : Instant} {world : ω} {now : Instant}

/-- A sweep that fails before it has an outcome ends there. -/
theorem instant_of_rebuild_error {failure : Failure}
    (h : ((rebuild deadline).run host world now).result = .error failure) :
    ((reconcile (.staffMember id) deadline).run host world now).instant =
      ((rebuild deadline).run host world now).instant := by
  rw [reconcile, Activity.andThen, Activity.run_bind]
  simp only [h, Activity.run]

/-- A sweep that has an outcome ends when it has recorded it. -/
theorem instant_of_rebuild_ok {o : Outcome}
    (h : ((rebuild deadline).run host world now).result = .ok o) :
    let rebuilt := (rebuild deadline).run host world now
    ((reconcile (.staffMember id) deadline).run host world now).instant =
      rebuilt.instant + recordDelay host id o rebuilt.world rebuilt.instant := by
  intro rebuilt
  rw [reconcile, Activity.andThen, Activity.run_bind]
  simp only [h, recordStatus_andThen]
  exact Activity.instant_run_await (fun answer => ⟨_, rfl⟩) _ _

end

/-! ### Deadlines -/

/-- A reconcile of a project, or a sweep that no staff member triggered, that is started by its
deadline has ended by then, whatever its calls are answered and however long they take. A sweep that
a member triggered comes by then to its outcome, or fails. It ends by the deadline just when it
fails or the record of the outcome, which is begun at once, is made by then; and it waits for
nothing but the record past the deadline, also where others change the world. -/
theorem reconciles_end_by_their_deadline (host : Host σ ω) {start deadline : Instant}
    (h : start ≤ deadline) :
    (∀ config id, (Lifecycle.reconcile config id deadline).EndsBy host start deadline) ∧
    (reconcile .workspaces deadline).EndsBy host start deadline ∧
    ∀ id,
      let sweep : Activity σ (Except Failure Action) := reconcile (.staffMember id) deadline
      (∀ world,
        let rebuilt := (rebuild deadline).run host world start
        let ended := sweep.run host world start
        rebuilt.instant ≤ deadline ∧
        (∀ failure, rebuilt.result = .error failure → ended.instant = rebuilt.instant) ∧
        (∀ o, rebuilt.result = .ok o →
          ended.instant = rebuilt.instant + recordDelay host id o rebuilt.world rebuilt.instant) ∧
        (ended.instant ≤ deadline ↔ ∀ o, rebuilt.result = .ok o →
          rebuilt.instant + recordDelay host id o rebuilt.world rebuilt.instant ≤ deadline)) ∧
      ∀ p now, sweep.Reaches host start p now →
        now ≤ deadline ∨ ∃ annotations world begun, begun ≤ deadline ∧
          now = begun + host.delay world (.patchStaff id annotations) := by
  refine ⟨fun config id => (Lifecycle.bounded_reconcile config id deadline).endsBy h,
    (bounded_reconcile_workspaces deadline).endsBy h, fun id => ⟨fun world => ?_, ?_⟩⟩
  · intro rebuilt ended
    have hrebuilt : rebuilt.instant ≤ deadline := ((bounded_rebuild deadline).run h).le
    refine ⟨hrebuilt, fun _ => instant_of_rebuild_error, fun _ => instant_of_rebuild_ok, ?_⟩
    cases hresult : rebuilt.result with
    | error failure =>
      have hended : ended.instant = rebuilt.instant := instant_of_rebuild_error hresult
      rw [hended]
      exact ⟨nofun, fun _ => hrebuilt⟩
    | ok o =>
      have hended : ended.instant =
          rebuilt.instant + recordDelay host id o rebuilt.world rebuilt.instant :=
        instant_of_rebuild_ok hresult
      rw [hended]
      constructor
      · rintro hle _ ho
        cases ho
        exact hle
      · exact fun hall => hall o rfl
  · intro p now hreaches
    rcases ((bounded_reconcile_staffMember id deadline).of_reaches h hreaches).1 with
      hle | ⟨call, world, begun, ⟨annotations, rfl⟩, hbegun, hnow⟩
    · exact .inl hle
    · exact .inr ⟨annotations, world, begun, hbegun, hnow⟩

/-! ### Slow calls -/

/-- The member who triggers a sweep, and on whom its outcome is recorded in the end. -/
def requester : ResourceId := ⟨"maintainerd", "ann"⟩

/-- One member and one workspace, with some slow calls. -/
def slowed (delays : Delays) : World where
  remote := {
    sourceNamespace := "maintainerd"
    workspaces := .ofList [("zot", ⟨"zot", .ready, none, true, none⟩)] }
  staff := { objects := .ofList [(requester, .edit none requester "ann@x.io" .empty)] }
  delays

/-- Calls that take longer than the deadline are given up. -/
theorem hanging_calls_are_given_up :
    let host := World.host fun _ => .epoch
    let hanging := slowed (.ofList [("bind:zot", 100), ("project", 100)])
    let sweep := (reconcile (.staffMember requester) 10).run host hanging 0
    let lifecycle := (Lifecycle.reconcile .standard requester 10).run host hanging 0
    (sweep.result = .error (.workspaces 1 [("zot", .abandoned)]) ∧ sweep.instant ≤ 10) ∧
      lifecycle.result = .error .timeout ∧ lifecycle.instant ≤ 10 := by
  intro host hanging sweep lifecycle
  have hstart : 0 ≤ 10 := by decide
  obtain ⟨hlifecycle, -, hsweep⟩ := reconciles_end_by_their_deadline host hstart
  obtain ⟨-, -, -, hiff⟩ := (hsweep requester).1 hanging
  exact ⟨⟨rfl, hiff.mpr fun _ _ => Nat.le_refl 10⟩, rfl,
    (hlifecycle .standard requester).alone hanging⟩

/-- A record that takes longer than the deadline is waited for. -/
theorem slow_records_outlast_the_deadline :
    let slow := slowed (.ofList [("patch", 50)])
    let sweep := (reconcile (.staffMember requester) 10).run (World.host fun _ => .epoch) slow 0
    sweep.result = .ok .done ∧ sweep.instant = 50 ∧ ¬sweep.instant ≤ 10 := by
  intro slow sweep
  have hinstant : sweep.instant = 50 := rfl
  refine ⟨rfl, hinstant, ?_⟩
  rw [hinstant]
  decide

end Sweep

end WorkspaceAccess
