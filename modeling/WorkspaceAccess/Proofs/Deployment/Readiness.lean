import WorkspaceAccess.Proofs.Deployment.Attendance

/-!
# Readiness Is Never Lost

A workspace becomes ready, its lifecycle records that on the project, the index hears of it and asks
for a sweep, and the sweep leaves a binding in the workspace. Between any two of these things the
system may be anywhere, and each of them may fail and be tried again.

What holds at all times is this: a managed workspace that the index knows to be ready is attended to
(`System.Attended`). With nothing left to be delivered the index knows what the projects record, and
with a quiet controller nothing but a binding attends to a workspace. So the invariant has no part
that is about the lifecycle controller; whatever it does, it does by way of what the projects record
and the index hears.

The index asks for a sweep when it comes to know of a workspace, and only then. That is the step at
which the invariant is not simply handed on: the sweep that it asks for is what attends to the
workspace from then on. In all other steps the workspace was known before and could receive its
binding before, since a workspace that is ready stays ready and keeps its mark.

## Main results

* `Sound.isTarget`: a managed workspace that the index knows to be ready could receive a binding
  before a step as well.
* `Attended.step`: a step leaves no ready workspace unattended, by cases on what happens.
* `Reachable.attended`: in everything that comes about the ready workspaces are attended to.
* `readiness_is_never_lost`: when no event of a project is left to be delivered and the controller
  of the sweeps is quiet, every managed workspace that a project records as ready has its binding.
* `zot_is_swept`: a project that is added, whose workspace is recorded and swept.
-/

namespace WorkspaceAccess

namespace System

variable {config : DeploymentConfig} {wall : Instant → Timestamp} {s t : System}

/-- The managed workspaces that the index knows to be ready are attended to. -/
structure Attended (config : DeploymentConfig) (s : System) : Prop where
  /-- The sweeps in flight are those of the controller. -/
  manned : s.sweeps.Manned config.sweepJob.policy
  /-- Something sees to it that the workspaces get their bindings. -/
  attended {id : ResourceId} {w : String} {ws : WorkspaceInfo} : s.ready.get? id = some w →
    s.posted.world.remote.workspaces.get? w = some ws → ws.managed = true →
    Sweep.Attends w s.posted.world.remote s.sweeps

/-- A managed workspace that the index knows to be ready could receive a binding before a step as
well. -/
theorem Sound.isTarget (h : s.Sound config) {id : ResourceId} {w : String} {ws : WorkspaceInfo}
    {later : InMemory} (hprogress : s.posted.world.remote.Progresses later)
    (hready : s.ready.get? id = some w) (hget : later.workspaces.get? w = some ws)
    (hmanaged : ws.managed = true) :
    ∃ old, s.posted.world.remote.workspaces.get? w = some old ∧ old.managed = true ∧
      s.posted.world.remote.IsTarget w := by
  obtain ⟨old, hold, hphase⟩ := h.posted.known hready
  obtain ⟨new, hnew, -, hmark⟩ := hprogress.ready hold hphase
  obtain rfl := Option.some.inj (hnew.symm.trans hget)
  rw [hmark] at hmanaged
  refine ⟨old, hold, hmanaged, old, hold, ?_⟩
  rw [WorkspaceInfo.isTarget, hmanaged, hphase]
  rfl

/-- A step leaves no ready workspace unattended, whichever part of the system takes it. -/
theorem Attended.step (hsound : s.Sound config) (h : s.Attended config)
    (hstep : Step config wall s t) : t.Attended config := by
  have hprogress := (hsound.step hstep).2
  cases hstep with
  | lifecycle | change =>
    refine ⟨h.manned, fun hready hget hmanaged => ?_⟩
    obtain ⟨old, hold, hmark, -⟩ := hsound.isTarget hprogress hready hget hmanaged
    exact (h.attended hready hold hmark).mono hprogress.bound
  | sweeps hteam =>
    refine ⟨hteam.manned h.manned, fun hready hget hmanaged => ?_⟩
    obtain ⟨old, hold, hmark, htarget⟩ := hsound.isTarget hprogress hready hget hmanaged
    exact (h.attended hready hold hmark).step h.manned hsound.sweeps hsound.posted.named htarget
      hteam
  | wait _ hlater =>
    exact ⟨h.manned.wait hlater, fun hready hget hmanaged =>
      (h.attended hready hget hmanaged).wait _⟩
  | deliver =>
    rw [deliver]
    split
    · exact h
    split
    · exact h
    rename_i later demand hhandle
    refine ⟨h.manned.enqueueAll demand.sweeps, fun hready hget hmanaged => ?_⟩
    rcases ProjectIndex.asks_of_handle hhandle hready with hknown | ⟨-, hasked⟩
    · exact (h.attended hknown hget hmanaged).enqueueAll demand.sweeps
    · exact .of_enqueueAll hasked _ _ s.sweeps

/-- In everything that comes about the ready workspaces are attended to. -/
theorem Reachable.attended (h : Reachable config wall s) : s.Attended config := by
  induction h with
  | initial now => exact ⟨.initial now, nofun⟩
  | next hreachable hstep ih => exact ih.step hreachable.sound hstep

/-- No readiness is lost on the way from one controller to the other: when no event of a project is
left to be delivered and the controller of the sweeps is quiet, every managed workspace that a
project records as ready has its binding. -/
theorem readiness_is_never_lost (h : Reachable config wall s) (hnews : s.posted.news = [])
    (hquiet : s.sweeps.course.controller.IsQuiet) {id : ResourceId} {p : Project} {w : String}
    {ws : WorkspaceInfo} (hp : s.posted.world.projects.objects.get? id = some p)
    (hphase : p.annotations.get? Annotations.workspacePhase = some "Ready")
    (hname : p.annotations.get? Annotations.workspaceName = some w)
    (hws : s.posted.world.remote.workspaces.get? w = some ws) (hmanaged : ws.managed = true) :
    s.posted.world.remote.bindings.contains w = true := by
  have hknown : s.ready.get? id = some w := by
    have hreplay := h.sound.posted.replay id
    rw [hnews, hp] at hreplay
    exact hreplay.trans (Project.readyWorkspace?_eq_some_iff.mpr ⟨hphase, hname⟩)
  exact (h.attended.attended hknown hws hmanaged).isBound h.attended.manned hquiet

/-! ### A project whose workspace is there and ready -/

/-- The standard configuration of both controllers and of their limits. -/
def standardConfig : DeploymentConfig := ⟨.standard, .standard, .standard⟩

/-- A managed workspace is ready before there is a project. -/
def zotReady : World where
  remote := InMemory.addWorkspace { sourceNamespace := "maintainerd" } "zot" .ready true

/-- A project, by its namespace and its name, which also is the name of its workspace. -/
def zot : ResourceId := ⟨"maintainerd", "zot"⟩

/-- The project when it is new, with nothing recorded on it. -/
def newZot : Project := .edit none zot .empty

/-- The project is added, and its first event is on the way to the index. -/
def zotAdded : System :=
  { initial zotReady 0 with posted := {
      world := { zotReady with projects := zotReady.projects.put zot newZot }
      news := [.applied newZot] } }

/-- The reconcile of the project records the workspace, which is ready already. -/
def zotRecorded : System :=
  let s := zotAdded.deliver
  let (lifecycle, posted) := s.lifecycle.round standardConfig.lifecycleJob
    (PostedWorld.host fun _ => .epoch) 4 s.posted
  { s with lifecycle, posted }

/-- A sweep that was asked for writes the binding. -/
def zotSwept : System :=
  let s := zotRecorded.deliver
  let (sweeps, posted) := s.sweeps.round standardConfig.sweepJob
    (PostedWorld.host fun _ => .epoch) 6 s.posted
  { s with sweeps, posted }

/-- The state in which the workspace has its binding comes about in steps of the whole system. -/
theorem reachable_zotSwept : Reachable standardConfig (fun _ => .epoch) zotSwept := by
  have hnamed : zotReady.remote.WellNamed :=
    ((InMemory.Built.new "maintainerd").add "zot" .ready true).wellNamed
  have hlegible : zotReady.remote.Legible :=
    InMemory.Legible.insert (r := { sourceNamespace := "maintainerd" }) nofun rfl rfl
  have hinitial : Reachable standardConfig (fun _ => .epoch) (initial zotReady 0) :=
    .initial 0 rfl hnamed hlegible
  have hadded : Reachable standardConfig (fun _ => .epoch) zotAdded :=
    hinitial.next (.change _ (.put rfl fun _ _ => rfl))
  have hrecorded : Reachable standardConfig (fun _ => .epoch) zotRecorded :=
    (hadded.next (.deliver _)).lifecycle (Team.steps_round _ _ 4 _ _)
  exact (hrecorded.next (.deliver _)).sweeps (Team.steps_round _ _ 6 _ _)

/-- In the end nothing is left to be done, the project records its workspace as ready, and the
workspace has its binding. -/
theorem zot_is_swept :
    Reachable standardConfig (fun _ => .epoch) zotSwept ∧ zotSwept.posted.news = [] ∧
      zotSwept.sweeps.course.controller.IsQuiet ∧
      (∃ p, zotSwept.posted.world.projects.objects.get? zot = some p ∧
        p.annotations.get? Annotations.workspacePhase = some "Ready" ∧
        p.annotations.get? Annotations.workspaceName = some "zot") ∧
      (∃ ws, zotSwept.posted.world.remote.workspaces.get? "zot" = some ws ∧ ws.managed = true) ∧
      zotSwept.posted.world.remote.bindings.contains "zot" = true := by
  have hnews : zotSwept.posted.news = [] := List.isEmpty_iff.mp (by decide)
  have hactive : zotSwept.sweeps.course.controller.book.active = SortedMap.empty := by decide
  have hretries : zotSwept.sweeps.course.controller.book.retries = SortedMap.empty := by decide
  have hquiet : zotSwept.sweeps.course.controller.IsQuiet :=
    ⟨by decide, by decide, fun _ => by rw [hactive]; rfl, fun _ => by rw [hretries]; rfl⟩
  obtain ⟨p, hp⟩ : ∃ p, zotSwept.posted.world.projects.objects.get? zot = some p :=
    Option.isSome_iff_exists.mp (by decide)
  have hphase : (zotSwept.posted.world.projects.objects.get? zot).bind
      (fun p => p.annotations.get? Annotations.workspacePhase) = some "Ready" := by decide
  have hname : (zotSwept.posted.world.projects.objects.get? zot).bind
      (fun p => p.annotations.get? Annotations.workspaceName) = some "zot" := by decide
  rw [hp] at hphase hname
  have hws : zotSwept.posted.world.remote.workspaces.get? "zot" =
      some ⟨"zot", .ready, some (InMemory.urlOf "zot"), true, none⟩ := by decide
  exact ⟨reachable_zotSwept, hnews, hquiet, ⟨p, hp, hphase, hname⟩, ⟨_, hws, rfl⟩,
    readiness_is_never_lost reachable_zotSwept hnews hquiet hp hphase hname hws rfl⟩

end System

end WorkspaceAccess
