import WorkspaceAccess.Proofs.Access.Conservation
import WorkspaceAccess.Proofs.Access.FullRebuild

/-!
# Sweeps That Come to Nothing

A sweep that is alone on a control plane in memory may fail before it has written anything: it
cannot connect, or list the workspaces, or read the roster, or all this takes too long. Then it says
so, and the world is exactly as it was: no binding is written, no count is raised, no member is
changed, and the metrics do not know of the sweep. It is as if it had not been started.

Once it writes, nothing takes back what it has done. Where its outcome cannot be recorded on the
member who triggered it, the sweep fails with that error and with no other, and yet the bindings and
the metrics are those of a sweep that has nothing to record (`FailsToRecord`). The proof runs both
sweeps in the same world: they do the same up to the record, and the record is refused without a
trace.

That a read takes too long is said with the deadline and the time that the reads take in the world
(`readTime`). A sweep that is started after its deadline never fits; for one that is started before,
to fit is to be over by then.

## Main results

* `Store.patch_of_patchFault`: a store that refuses its patches stays as it is.
* `Rounds.onlyWrites`: the rounds count every update and change neither the staff nor the metrics.
* `failsToRecord`: where the patches of the staff are refused, only the record of a sweep is
  missing.
* `unstarted_sweeps_change_nothing`: for every world, trigger, deadline and start, a sweep that
  cannot start says why and changes nothing, and one that cannot record its outcome keeps all that
  it has done.
* `faulty_sweeps_end_as_they_should`: three faulty worlds, one for each of these cases.
-/

namespace WorkspaceAccess

/-- A store that refuses its patches stays as it is. -/
theorem Store.patch_of_patchFault {α : Type} {annotate : α → Annotations → α} {s : Store α}
    {refusal : Refusal} (h : s.patchFault = some refusal) (id : ResourceId)
    (annotations : Annotations) :
    s.patch annotate id annotations = (.error (.refused refusal), s) := by
  rw [patch, h]

namespace Sweep

variable {wall : Instant → Timestamp} {world later : World} {trigger : Trigger}
  {deadline now finish : Instant}

/-- What the rounds in memory do besides writing the bindings. -/
structure OnlyWrites (updated : Nat) (old new : World) : Prop where
  /-- The staff is as it was, the member that triggered the sweep included. -/
  staff : new.staff = old.staff
  /-- So are the metrics, since nothing has been reported. -/
  metrics : new.metrics = old.metrics
  /-- So many writes were counted by the control plane. -/
  written : new.remote.written = old.remote.written + updated

/-- The rounds count every update, and change neither the staff nor the metrics. -/
theorem Rounds.onlyWrites {subjects : List String} {left : List WorkspaceInfo}
    {verdicts : List Verdict} {story : Story Unit}
    (h : Rounds (World.host wall) () subjects deadline left world now verdicts story later finish) :
    OnlyWrites (updatedOf verdicts).length world later := by
  induction h with
  | done => exact ⟨rfl, rfl, rfl⟩
  | abandon _ _ ih | giveUp _ _ ih => exact ih
  | refuse _ _ hanswer _ ih =>
    obtain rfl := eq_of_write_fails hanswer
    exact ih
  | @update ws _ _ _ _ _ _ _ verdicts _ _ _ hanswer _ ih =>
    obtain ⟨hmetrics, hwritten⟩ := Leg.written_of_write hanswer
    obtain ⟨hstaff, -⟩ := remote_of_write hanswer
    refine ⟨ih.staff.trans hstaff, ih.metrics.trans hmetrics, ?_⟩
    have hmore := ih.written
    have hcount : (updatedOf ((ws.name, none) :: verdicts)).length =
        (updatedOf verdicts).length + 1 := rfl
    omega

/-- A sweep that could not record its outcome has done all the rest. -/
structure FailsToRecord (error : ApiError) (basis : Basis Unit) (old : World)
    (quiet ended : Ended World (Except Failure Action)) : Prop where
  /-- The sweep says that it could not record its outcome, and why. -/
  result : ended.result = .error (.status error)
  /-- It leaves the world as a sweep that has nothing to record. -/
  same : ended.world = quiet.world
  /-- No member is changed by the attempt. -/
  staff : ended.world.staff = old.staff
  /-- The outcome tells of every workspace that was listed. The metrics have it, and the writes
  were counted. -/
  outcome : ∃ o : Outcome, quiet.result = conclude o ∧
    o.subjects = (Roster.subjects basis.members).length ∧ o.total = basis.workspaces.length ∧
    ended.world.metrics = old.metrics.record o.counts ∧
    ended.world.remote.written = old.remote.written + o.updated

/-- Where the patches of the staff are refused, only the record of a sweep is missing. -/
theorem failsToRecord {id : ResourceId} {refusal : Refusal} {basis : Basis Unit}
    (hfault : world.staff.patchFault = some refusal) (hfits : Fits (readTime world) now deadline)
    (hbasis : basisOf world = .ok basis) :
    FailsToRecord (.refused refusal) basis world
      ((reconcile .workspaces deadline).run (World.host wall) world now)
      ((reconcile (.staffMember id) deadline).run (World.host wall) world now) := by
  have hread := (run_readBasis_within wall world deadline now).1 hfits
  rw [hbasis] at hread
  obtain ⟨verdicts, story, written, instant, hrounds, hrebuilt, -⟩ :=
    rebuild_of_basis (congrArg (·.result) hread)
  rw [hread] at hrounds
  have honly := hrounds.onlyWrites
  let o := tally (Roster.subjects basis.members).length verdicts
  have hquiet : (reconcile .workspaces deadline).run (World.host wall) world now =
      ⟨conclude o, written.report o.counts, instant⟩ := by
    have hrun := (run_reconcile (World.host wall) .workspaces deadline world now).2
    rw [hrebuilt] at hrun
    exact hrun o rfl
  obtain ⟨later, hended⟩ : ∃ later, (reconcile (.staffMember id) deadline).run (World.host wall)
      world now = ⟨.error (.status (.refused refusal)), written.report o.counts, later⟩ := by
    have hrun := (run_reconcile (World.host wall) (.staffMember id) deadline world now).2
    rw [hrebuilt] at hrun
    obtain ⟨clock, answer, later, ended, hanswer, hfinish, -⟩ :=
      finish_staffMember (World.host wall) id o written instant
    have hpatch : written.staff.patch StaffMember.annotate id (statusAnnotations o (wall instant)) =
        (.error (.refused refusal), written.staff) :=
      Store.patch_of_patchFault (honly.staff ▸ hfault) id _
    simp only [World.host, World.answer, World.report, hpatch] at hanswer
    cases hanswer
    exact ⟨ended, (hrun o rfl).trans hfinish⟩
  have htotal : o.total = basis.workspaces.length := by
    rw [total_tally, ← List.length_map, hrounds.names, List.length_map]
  rw [hquiet, hended]
  exact ⟨rfl, rfl, honly.staff, o, rfl, rfl, htotal, congrArg (·.record o.counts) honly.metrics,
    honly.written⟩

/-- A sweep that cannot start says why and changes nothing: neither when a read fails nor when the
reads take too long, which for a sweep that is started by its deadline is to say that they are not
over by then. A sweep that could start but not record its outcome keeps all that it has done. -/
theorem unstarted_sweeps_change_nothing (wall : Instant → Timestamp) (world : World)
    (trigger : Trigger) (deadline now : Instant) :
    let host := World.host wall
    let ended := (reconcile trigger deadline).run host world now
    (now ≤ deadline → (Fits (readTime world) now deadline ↔ now + readTime world ≤ deadline)) ∧
    (∀ failure, basisOf world = .error failure → Fits (readTime world) now deadline →
      ended.result = .error failure ∧ ended.world = world) ∧
    (¬Fits (readTime world) now deadline →
      ended.result = .error .timeout ∧ ended.world = world) ∧
    ∀ id refusal basis, trigger = .staffMember id → world.staff.patchFault = some refusal →
      Fits (readTime world) now deadline → basisOf world = .ok basis →
      FailsToRecord (.refused refusal) basis world
        ((reconcile .workspaces deadline).run host world now) ended := by
  intro host ended
  obtain ⟨hread, hlate⟩ := run_readBasis_within wall world deadline now
  obtain ⟨htimeout, hfails⟩ := reconcile_of_unread host trigger deadline world now
  refine ⟨fits_iff, fun failure hbasis hfits => ?_, fun hfits => ?_, ?_⟩
  · rw [hread hfits, hbasis] at hfails
    have hended : ended = _ := hfails failure rfl
    rw [hended]
    exact ⟨rfl, rfl⟩
  · obtain ⟨later, hnone⟩ := hlate hfits
    rw [hnone] at htimeout
    have hended : ended = _ := htimeout rfl
    rw [hended]
    exact ⟨rfl, rfl⟩
  · rintro id refusal basis rfl hfault hfits hbasis
    exact failsToRecord hfault hfits hbasis

/-! ### A sweep in a faulty world -/

/-- The world of the sweeps below with a control plane that cannot be reached, so that the listing
of its workspaces fails. -/
def cutOff : World := { faulty with remote := { faulty.remote with unreachable := true } }

/-- The world of the sweeps below in which listing the workspaces takes longer than the sweep
has. -/
def sluggish : World := { faulty with delays := .ofList [("connect", 10), ("list", 100)] }

/-- Where the control plane cannot be reached or the reads take too long, a sweep changes nothing.
Where only its record is refused, one binding is written and one has failed, and both are
counted. -/
theorem faulty_sweeps_end_as_they_should :
    let ended (world : World) := (reconcile (.staffMember bob) 50).run (World.host stillCalendar)
      world 0
    ((ended cutOff).result = .error (.remote InMemory.unreachableError) ∧
      (ended cutOff).world = cutOff) ∧
    ((ended sluggish).result = .error .timeout ∧ (ended sluggish).world = sluggish) ∧
    (ended faulty).result = .error (.status (.refused ⟨"Failure", "read-only", "Forbidden", 403⟩)) ∧
    (ended faulty).world.metrics = ⟨1, 1, 1, 2⟩ ∧ (ended faulty).world.remote.written = 1 ∧
    (ended faulty).world.staff = faulty.staff := by
  intro ended
  have hsweep (world : World) :=
    unstarted_sweeps_change_nothing stillCalendar world (.staffMember bob) 50 0
  obtain ⟨-, hcutOff, -, -⟩ := hsweep cutOff
  obtain ⟨-, -, hsluggish, -⟩ := hsweep sluggish
  obtain ⟨-, -, -, hfaulty⟩ := hsweep faulty
  have hrecord := hfaulty bob _ _ rfl rfl (.inl rfl) rfl
  exact ⟨hcutOff _ rfl (.inl rfl), hsluggish (by decide), hrecord.result, rfl, rfl, hrecord.staff⟩

end Sweep

end WorkspaceAccess
