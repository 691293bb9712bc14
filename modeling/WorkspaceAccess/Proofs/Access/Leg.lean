import WorkspaceAccess.Access.Sweep
import WorkspaceAccess.Proofs.Reconcile.Turn

/-!
# The Legs of a Sweep

A sweep connects, lists the workspaces, reads the roster, writes one binding after the other,
reports and records its outcome. A *leg* is a place on this way, with what the sweep knows there,
and `Leg.rest` is the activity that is left. `Leg.Move` lists everything that a sweep can do from
each leg.

The program of a sweep is an activity: a tree of calls and answers in which reads may be given up
when the deadline passes, and writes one by one. To follow several sweeps that are under way at once
one has to know where each of them is, and an activity that is half done does not say so. The leg
does. It holds the session, what was listed, the roster that was read, the workspaces that are left
and the outcome so far, and nothing else about the sweep matters for what it does next.

A move is one turn of a sweep: it makes a call and gets an answer, gives up a call, looks at the
clocks or reports. It is stated for any host, so that the same moves serve in every world. What
invariants over overlapping sweeps need is a case for each constructor of `Leg.Move`, and none of
them opens the program of a sweep again.

## Main results

* `writeBindings_cons`: with a workspace left, a sweep looks at the clocks first.
* `Move.view`: a move in a world is one in the world that it holds.
* `move_of_turn`: a turn of what is left of a sweep is a move, so that the moves are all that a
  sweep can do.
-/

namespace WorkspaceAccess

namespace Sweep

variable {σ ω : Type}

/-- Writes the bindings of the workspaces, when what a sweep starts from could be read. -/
def build (deadline : Instant) :
    Option (Except Failure (Basis σ)) → Activity σ (Except Failure Outcome)
  | none => .done (.error .timeout)
  | some (.error e) => .done (.error e)
  | some (.ok basis) =>
    (writeBindings basis.session (Roster.subjects basis.members) deadline basis.workspaces
      ⟨(Roster.subjects basis.members).length, 0, []⟩).map .ok

/-- Reports an outcome and records it on the staff member, if there is one. -/
def finish (trigger : Trigger) (o : Outcome) : Activity σ (Except Failure Action) :=
  .report o.counts
    (match trigger with
      | .staffMember id => (recordStatus id o).andThen fun _ => .done (conclude o)
      | .workspaces => .done (conclude o))

/-- A place on the way of a sweep. -/
inductive Leg (σ : Type) where
  /-- It connects to the remote control plane. -/
  | connecting
  /-- It lists the workspaces, within its session. -/
  | listing (session : σ)
  /-- It reads the roster, and knows the workspaces. -/
  | reading (session : σ) (workspaces : List WorkspaceInfo)
  /-- It looks at the clocks before it goes to the next workspace, or it is through with them. -/
  | choosing (basis : Basis σ) (left : List WorkspaceInfo) (o : Outcome)
  /-- It writes the binding of a workspace, with others left after it. -/
  | writing (basis : Basis σ) (ws : WorkspaceInfo) (left : List WorkspaceInfo) (o : Outcome)
  /-- It looks at the clocks before it records its outcome. -/
  | recording (id : ResourceId) (o : Outcome)
  /-- It records its outcome on the member that triggered it. -/
  | patching (id : ResourceId) (o : Outcome) (now : Timestamp)
  /-- It has ended, with a result. -/
  | ended (result : Except Failure Action)

namespace Leg

/-- The workspaces that are to be written, when the roster can be read. -/
def readRoster (session : σ) (workspaces : List WorkspaceInfo) :
    Activity σ (Except Failure (Basis σ)) :=
  .await .listStaff fun
    | .error e => .done (.error (.list e))
    | .ok members => .done (.ok ⟨session, workspaces, members⟩)

/-- The workspaces and the roster, when they can be read. -/
def readWorkspaces (session : σ) : Activity σ (Except Failure (Basis σ)) :=
  .await (.listWorkspaces session) fun
    | .error e => .done (.error (.remote e))
    | .ok workspaces => readRoster session workspaces

/-- What is left of a sweep that has so much to read. -/
def fromReading (trigger : Trigger) (deadline : Instant)
    (reads : Activity σ (Except Failure (Basis σ))) : Activity σ (Except Failure Action) :=
  ((reads.within deadline).bind (build deadline)).andThen (finish trigger)

/-- What is left of a sweep that has so much to write. -/
def fromWriting (trigger : Trigger) (writes : Activity σ Outcome) :
    Activity σ (Except Failure Action) :=
  (writes.map .ok).andThen (finish trigger)

/-- What is left of a sweep while it writes a binding. -/
def writeNext (deadline : Instant) (basis : Basis σ) (ws : WorkspaceInfo)
    (left : List WorkspaceInfo) (o : Outcome) : Activity σ Outcome :=
  let subjects := Roster.subjects basis.members
  .awaitUntil deadline (.writeBinding basis.session ws.name subjects)
    (fun
      | .ok _ => writeBindings basis.session subjects deadline left o.succeed
      | .error e => writeBindings basis.session subjects deadline left (o.fail ws.name (.remote e)))
    (writeBindings basis.session subjects deadline left (o.fail ws.name .abandoned))

/-- What is left of a sweep while it records its outcome. -/
def patch (id : ResourceId) (o : Outcome) (now : Timestamp) : Activity σ (Except Failure Unit) :=
  .await (.patchStaff id (statusAnnotations o now)) fun
    | .error e => .done (.error (.status e))
    | .ok _ => .done (.ok ())

/-- With a workspace left, a sweep looks at the clocks first. -/
theorem writeBindings_cons (deadline : Instant) (basis : Basis σ) (ws : WorkspaceInfo)
    (left : List WorkspaceInfo) (o : Outcome) :
    writeBindings basis.session (Roster.subjects basis.members) deadline (ws :: left) o =
      .look fun clock =>
        if deadline ≤ clock.instant then
          writeBindings basis.session (Roster.subjects basis.members) deadline left
            (o.fail ws.name .abandoned)
        else writeNext deadline basis ws left o := by
  refine congrArg Activity.look (funext fun clock => ?_)
  split
  · rfl
  · refine congrArg (Activity.awaitUntil deadline _ · _) (funext fun answer => ?_)
    cases answer <;> rfl

/-- A sweep looks at the clocks before it records its outcome. -/
theorem recordStatus_eq (id : ResourceId) (o : Outcome) :
    (recordStatus id o : Activity σ (Except Failure Unit)) =
      .look fun clock => patch id o clock.wall := by
  refine congrArg Activity.look (funext fun clock => ?_)
  refine congrArg (Activity.await _) (funext fun answer => ?_)
  cases answer <;> rfl

/-- The activity that is left of a sweep on each of its legs, for its trigger and its deadline. -/
def rest (trigger : Trigger) (deadline : Instant) : Leg σ → Activity σ (Except Failure Action)
  | connecting => reconcile trigger deadline
  | listing session => fromReading trigger deadline (readWorkspaces session)
  | reading session workspaces => fromReading trigger deadline (readRoster session workspaces)
  | choosing basis left o =>
    fromWriting trigger
      (writeBindings basis.session (Roster.subjects basis.members) deadline left o)
  | writing basis ws left o => fromWriting trigger (writeNext deadline basis ws left o)
  | recording id o => (recordStatus id o).andThen fun _ => .done (conclude o)
  | patching id o now => (patch id o now).andThen fun _ => .done (conclude o)
  | ended result => .done result

/-- Only a sweep that has ended has nothing left to do. -/
theorem eq_ended_of_rest {leg : Leg σ} {trigger : Trigger} {deadline : Instant}
    {result : Except Failure Action} (h : leg.rest trigger deadline = .done result) :
    leg = ended result := by
  cases leg with
  | ended _ =>
    cases h
    rfl
  | choosing _ left _ =>
    cases left with
    | nil => cases h
    | cons _ _ => cases h
  | connecting | listing | reading | writing | recording | patching => cases h

/-- Where a sweep goes when it has reported: to the record of its outcome if a member triggered it,
and else to its end. -/
def reported (trigger : Trigger) (o : Outcome) : Leg σ :=
  match trigger with
  | .staffMember id => recording id o
  | .workspaces => ended (conclude o)

/-- What a sweep can do from a leg in a world: what it does, where it is then, and the world
afterwards. -/
inductive Move (host : Host σ ω) (trigger : Trigger) (deadline now : Instant) (world : ω) :
    Leg σ → Deed σ → Leg σ → ω → Prop
  /-- It has connected, and lists the workspaces next. -/
  | connect {session : σ} {later : ω}
      (h : host.answer .connect (host.clock now) world = (.ok session, later)) :
      Move host trigger deadline now world connecting (.answered .connect (.ok session))
        (listing session) later
  /-- It cannot connect, and ends with that. -/
  | connectFails {e : RemoteError} {later : ω}
      (h : host.answer .connect (host.clock now) world = (.error e, later)) :
      Move host trigger deadline now world connecting (.answered .connect (.error e))
        (ended (.error (.remote e))) later
  /-- The workspaces are listed, and the roster is read next. -/
  | list {session : σ} {workspaces : List WorkspaceInfo} {later : ω}
      (h : host.answer (.listWorkspaces session) (host.clock now) world = (.ok workspaces, later)) :
      Move host trigger deadline now world (listing session)
        (.answered (.listWorkspaces session) (.ok workspaces)) (reading session workspaces) later
  /-- The workspaces cannot be listed, and it ends with that. -/
  | listFails {session : σ} {e : RemoteError} {later : ω}
      (h : host.answer (.listWorkspaces session) (host.clock now) world = (.error e, later)) :
      Move host trigger deadline now world (listing session)
        (.answered (.listWorkspaces session) (.error e)) (ended (.error (.remote e))) later
  /-- The roster is read, and the writing begins. -/
  | read {session : σ} {workspaces : List WorkspaceInfo} {members : List StaffMember} {later : ω}
      (h : host.answer .listStaff (host.clock now) world = (.ok members, later)) :
      Move host trigger deadline now world (reading session workspaces)
        (.answered .listStaff (.ok members))
        (choosing ⟨session, workspaces, members⟩ workspaces
          ⟨(Roster.subjects members).length, 0, []⟩) later
  /-- The roster cannot be read, and it ends with that. -/
  | readFails {session : σ} {workspaces : List WorkspaceInfo} {e : ApiError} {later : ω}
      (h : host.answer .listStaff (host.clock now) world = (.error e, later)) :
      Move host trigger deadline now world (reading session workspaces)
        (.answered .listStaff (.error e)) (ended (.error (.list e))) later
  /-- The deadline passes while it connects, and it ends with that. -/
  | giveUpConnect :
      Move host trigger deadline now world connecting (.gaveUp .connect)
        (ended (.error .timeout)) world
  /-- The deadline passes while it lists the workspaces. -/
  | giveUpList {session : σ} :
      Move host trigger deadline now world (listing session) (.gaveUp (.listWorkspaces session))
        (ended (.error .timeout)) world
  /-- The deadline passes while it reads the roster. -/
  | giveUpRead {session : σ} {workspaces : List WorkspaceInfo} :
      Move host trigger deadline now world (reading session workspaces) (.gaveUp .listStaff)
        (ended (.error .timeout)) world
  /-- The deadline has passed before the next workspace. -/
  | abandon {basis : Basis σ} {ws : WorkspaceInfo} {left : List WorkspaceInfo} {o : Outcome}
      (h : deadline ≤ now) :
      Move host trigger deadline now world (choosing basis (ws :: left) o) .looked
        (choosing basis left (o.fail ws.name .abandoned)) world
  /-- It goes to the next workspace, as the deadline has not passed. -/
  | choose {basis : Basis σ} {ws : WorkspaceInfo} {left : List WorkspaceInfo} {o : Outcome}
      (h : now < deadline) :
      Move host trigger deadline now world (choosing basis (ws :: left) o) .looked
        (writing basis ws left o) world
  /-- The binding is written, which counts as an update. -/
  | write {basis : Basis σ} {ws : WorkspaceInfo} {left : List WorkspaceInfo} {o : Outcome}
      {later : ω}
      (h : host.answer (.writeBinding basis.session ws.name (Roster.subjects basis.members))
        (host.clock now) world = (.ok (), later)) :
      Move host trigger deadline now world (writing basis ws left o)
        (.answered (.writeBinding basis.session ws.name (Roster.subjects basis.members)) (.ok ()))
        (choosing basis left o.succeed) later
  /-- The binding cannot be written, which counts as a failure. -/
  | writeFails {basis : Basis σ} {ws : WorkspaceInfo} {left : List WorkspaceInfo} {o : Outcome}
      {e : RemoteError} {later : ω}
      (h : host.answer (.writeBinding basis.session ws.name (Roster.subjects basis.members))
        (host.clock now) world = (.error e, later)) :
      Move host trigger deadline now world (writing basis ws left o)
        (.answered (.writeBinding basis.session ws.name (Roster.subjects basis.members)) (.error e))
        (choosing basis left (o.fail ws.name (.remote e))) later
  /-- The deadline passes while it writes the binding. -/
  | giveUpWrite {basis : Basis σ} {ws : WorkspaceInfo} {left : List WorkspaceInfo} {o : Outcome} :
      Move host trigger deadline now world (writing basis ws left o)
        (.gaveUp (.writeBinding basis.session ws.name (Roster.subjects basis.members)))
        (choosing basis left (o.fail ws.name .abandoned)) world
  /-- It is through with the workspaces and reports. -/
  | report {basis : Basis σ} {o : Outcome} :
      Move host trigger deadline now world (choosing basis [] o) (.reported o.counts)
        (reported trigger o) (host.report o.counts world)
  /-- It looks at the calendar for the time of its record. -/
  | time {id : ResourceId} {o : Outcome} :
      Move host trigger deadline now world (recording id o) .looked
        (patching id o (host.wall now)) world
  /-- Its outcome is recorded, if the member is there. -/
  | record {id : ResourceId} {o : Outcome} {wall : Timestamp} {found : Bool} {later : ω}
      (h : host.answer (.patchStaff id (statusAnnotations o wall)) (host.clock now) world =
        (.ok found, later)) :
      Move host trigger deadline now world (patching id o wall)
        (.answered (.patchStaff id (statusAnnotations o wall)) (.ok found))
        (ended (conclude o)) later
  /-- Its outcome cannot be recorded, and it ends with that. -/
  | recordFails {id : ResourceId} {o : Outcome} {wall : Timestamp} {e : ApiError} {later : ω}
      (h : host.answer (.patchStaff id (statusAnnotations o wall)) (host.clock now) world =
        (.error e, later)) :
      Move host trigger deadline now world (patching id o wall)
        (.answered (.patchStaff id (statusAnnotations o wall)) (.error e))
        (ended (.error (.status e))) later

/-- A move in a world is one in the world that it holds. -/
theorem Move.view {υ : Type} {host : Host σ ω} {inner : Host σ υ} {view : ω → υ}
    (hviews : host.Views inner view) {trigger : Trigger} {deadline now : Instant} {world later : ω}
    {leg next : Leg σ} {deed : Deed σ}
    (h : Move host trigger deadline now world leg deed next later) :
    Move inner trigger deadline now (view world) leg deed next (view later) := by
  cases h with
  | connect h => exact .connect (hviews.answered h)
  | connectFails h => exact .connectFails (hviews.answered h)
  | list h => exact .list (hviews.answered h)
  | listFails h => exact .listFails (hviews.answered h)
  | read h => exact .read (hviews.answered h)
  | readFails h => exact .readFails (hviews.answered h)
  | giveUpConnect => exact .giveUpConnect
  | giveUpList => exact .giveUpList
  | giveUpRead => exact .giveUpRead
  | abandon h => exact .abandon h
  | choose h => exact .choose h
  | write h => exact .write (hviews.answered h)
  | writeFails h => exact .writeFails (hviews.answered h)
  | giveUpWrite => exact .giveUpWrite
  | @report _ o => exact hviews.report o.counts world ▸ .report
  | time => exact hviews.wall ▸ .time
  | record h => exact .record (hviews.answered h)
  | recordFails h => exact .recordFails (hviews.answered h)

/-- A turn of what is left of a sweep is a move. -/
theorem move_of_turn {host : Host σ ω} {trigger : Trigger} {deadline now : Instant}
    {inTime : Bool} {world later : ω} {leg : Leg σ} {a : Activity σ (Except Failure Action)}
    {deed : Deed σ}
    (h : (leg.rest trigger deadline).turn? host now inTime world = some (a, deed, later)) :
    ∃ next : Leg σ, a = next.rest trigger deadline ∧
      Move host trigger deadline now world leg deed next later := by
  cases leg with
  | connecting =>
    rcases Activity.turn?_awaitUntil h with ⟨answer, hanswer, rfl, rfl⟩ | ⟨rfl, rfl, rfl⟩
    · cases answer with
      | ok session => exact ⟨.listing session, rfl, .connect hanswer⟩
      | error e => exact ⟨.ended (.error (.remote e)), rfl, .connectFails hanswer⟩
    · exact ⟨.ended (.error .timeout), rfl, .giveUpConnect⟩
  | listing session =>
    rcases Activity.turn?_awaitUntil h with ⟨answer, hanswer, rfl, rfl⟩ | ⟨rfl, rfl, rfl⟩
    · cases answer with
      | ok workspaces => exact ⟨.reading session workspaces, rfl, .list hanswer⟩
      | error e => exact ⟨.ended (.error (.remote e)), rfl, .listFails hanswer⟩
    · exact ⟨.ended (.error .timeout), rfl, .giveUpList⟩
  | reading session workspaces =>
    rcases Activity.turn?_awaitUntil h with ⟨answer, hanswer, rfl, rfl⟩ | ⟨rfl, rfl, rfl⟩
    · cases answer with
      | ok members =>
        exact ⟨.choosing ⟨session, workspaces, members⟩ workspaces _, rfl, .read hanswer⟩
      | error e => exact ⟨.ended (.error (.list e)), rfl, .readFails hanswer⟩
    · exact ⟨.ended (.error .timeout), rfl, .giveUpRead⟩
  | choosing basis left o =>
    cases left with
    | nil =>
      cases h
      refine ⟨reported trigger o, ?_, .report⟩
      cases trigger <;> rfl
    | cons ws left =>
      rw [rest, writeBindings_cons] at h
      by_cases hlate : deadline ≤ now
      · cases h
        refine ⟨choosing basis left (o.fail ws.name .abandoned), ?_, .abandon hlate⟩
        exact congrArg (fromWriting trigger) (if_pos hlate)
      · cases h
        refine ⟨writing basis ws left o, ?_, .choose (Nat.lt_of_not_le hlate)⟩
        exact congrArg (fromWriting trigger) (if_neg hlate)
  | writing basis ws left o =>
    rcases Activity.turn?_awaitUntil h with ⟨answer, hanswer, rfl, rfl⟩ | ⟨rfl, rfl, rfl⟩
    · cases answer with
      | ok _ => exact ⟨.choosing basis left o.succeed, rfl, .write hanswer⟩
      | error e => exact ⟨.choosing basis left _, rfl, .writeFails hanswer⟩
    · exact ⟨.choosing basis left _, rfl, .giveUpWrite⟩
  | recording id o =>
    rw [rest, recordStatus_eq] at h
    cases h
    exact ⟨.patching id o (host.wall now), rfl, .time⟩
  | patching id o wall =>
    obtain ⟨answer, hanswer, rfl, rfl⟩ := Activity.turn?_await h
    cases answer with
    | ok found => exact ⟨.ended (conclude o), rfl, .record hanswer⟩
    | error e => exact ⟨.ended (.error (.status e)), rfl, .recordFails hanswer⟩
  | ended result => cases h

end Leg

end Sweep

end WorkspaceAccess
