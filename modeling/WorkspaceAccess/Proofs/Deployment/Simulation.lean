import WorkspaceAccess.Proofs.Deployment.Crew
import WorkspaceAccess.Proofs.Deployment.Watched

/-!
# The Simulated Deployment Is the Whole System

In a simulated deployment the index hears of every change at once, and what it asks for is handed
over when the reconciles have gone on as far as they can. That is one of the ways in which the whole
system can go on: the news are kept until then, and are delivered one after the other. So whatever
holds of all states of the system holds of all deployments that are simulated.

The relation is `Deployment.Fits`. Both controllers of the deployment are crews that fit the teams
of the system, its world is ahead of that of the system by the news that were not delivered, and
what the indexes have asked for in the meantime is what they will ask for when the news come. After
a round all of it has been handed over, and the two are in step again (`Deployment.InStep`).

Virtual time does nothing but wait and go its rounds. How many rounds there are, and how far the
time goes, is for the simulation to decide by a bound on its steps; whatever it decides, it comes to
a state of the whole system.

## Main results

* `System.Reachable.handOver`: the news are delivered one after the other.
* `InStep.withLifecycle`, `InStep.withSweeps`, `InStep.round`: all that happens in a round.
* `Reachable.fits`: every deployment that is simulated is a state of the whole system.
* `Reachable.isTruthful`, `Reachable.ready_eq`: in a simulation a project only records a workspace
  as ready that is ready, and the index knows just what the projects record.
* `Reachable.advance`, `Reachable.runUntil`: virtual time only leads to such deployments.
-/

namespace WorkspaceAccess

namespace System

variable {config : DeploymentConfig} {wall : Instant → Timestamp}

/-- The system after all news were delivered, and what was asked for was enqueued. -/
def handOver (s : System) (ready : ReadyProjects) (demand : ProjectDemand) : System where
  posted := { s.posted with news := [] }
  ready
  lifecycle := s.lifecycle.enqueueAll demand.lifecycle
  sweeps := s.sweeps.enqueueAll demand.sweeps

/-- The news are delivered one after the other, and the triggers of the staff are enqueued between
them. -/
theorem Reachable.handOver {s : System} (h : Reachable config wall s) {notices : List Notice}
    {later : ReadyProjects} {demand : ProjectDemand}
    (hnews : s.posted.news = notices.filterMap Notice.event?)
    (hask : Notice.Ask s.ready notices later demand) :
    Reachable config wall (s.handOver later demand) := by
  generalize hready : s.ready = ready at hask
  induction hask generalizing s with
  | nil =>
    rcases s with ⟨⟨world, news⟩, ready, lifecycle, sweeps⟩
    obtain rfl : news = [] := hnews
    obtain rfl := hready
    exact h
  | @cons _ between last first rest d e hfirst _ ih =>
    subst hready
    cases hfirst with
    | @project event _ _ hhandle =>
      have hnews : s.posted.news = event :: rest.filterMap Notice.event? := hnews
      have hdelivered : s.deliver = { s.handOver between d with
          posted := { s.posted with news := rest.filterMap Notice.event? } } := by
        rw [deliver, hnews]
        simp only [hhandle]
        rfl
      have hrest := ih (h.next (.deliver s)) (by rw [hdelivered]) (by rw [hdelivered]; rfl)
      rw [hdelivered] at hrest
      simpa [System.handOver, ProjectDemand.and, Team.enqueueAll] using hrest
    | staff trigger =>
      have hrest := ih (h.next (.sweeps s (.enqueue s.sweeps s.posted trigger))) hnews rfl
      simpa [System.handOver, ProjectDemand.and, Team.enqueueAll] using hrest

end System

namespace Deployment

variable {config : DeploymentConfig} {wall : Instant → Timestamp} {now : Instant}
  {d : Deployment} {s : System}

/-- A deployment is a system in which all news were delivered. -/
structure Fits (now : Instant) (d : Deployment) (s : System) : Prop where
  /-- The world is the same, projects and staff members included. -/
  world : d.watched.world = s.posted.world
  /-- The index knows the same ready workspaces. -/
  ready : d.watched.ready = s.ready
  /-- There are no news, as indexes of a simulation hear of changes at once. -/
  news : s.posted.news = []
  /-- There is nothing to be handed over to a queue. -/
  demand : d.watched.demand = ⟨[], []⟩
  /-- Projects do not disappear when they are patched. -/
  present : d.watched.world.projects.vanishing = false
  /-- The lifecycle controller and its reconciles are the same. -/
  lifecycle : d.lifecycle.Fits now [] [] [] s.lifecycle
  /-- The controller of the sweeps and its reconciles are the same. -/
  sweeps : d.sweeps.Fits now [] [] [] s.sweeps

/-- A deployment is in step with a system when they fit and the system can come about. -/
def InStep (config : DeploymentConfig) (wall : Instant → Timestamp) (now : Instant)
    (d : Deployment) : Prop :=
  ∃ s, System.Reachable config wall s ∧ d.Fits now s

/-- The watched world of a deployment is ahead of the world of the system by what was not
delivered. -/
theorem Fits.isAhead (h : d.Fits now s) (hreachable : System.Reachable config wall s) :
    d.watched.IsAhead s.ready s.posted where
  world := h.world
  heard := ⟨[], h.news, by rw [h.ready, h.demand]; exact .nil _⟩
  named hget := (hreachable.sound.posted.stored (h.world ▸ hget)).1
  present := h.present

/-- What the indexes asked for is handed over, and in the system it is enqueued when the news are
heard. -/
theorem inStep_handOver (hreachable : System.Reachable config wall s)
    (hahead : d.watched.IsAhead s.ready s.posted)
    (hlifecycle : d.lifecycle.Fits now [] [] [] s.lifecycle)
    (hsweeps : d.sweeps.Fits now [] [] [] s.sweeps) : d.handOver.InStep config wall now := by
  obtain ⟨notices, hnews, hask⟩ := hahead.heard
  exact ⟨_, hreachable.handOver hnews hask, hahead.world, rfl, rfl, rfl, hahead.present,
    hlifecycle.enqueueAll _, hsweeps.enqueueAll _⟩

namespace InStep

/-- Something is done by the lifecycle controller or its reconciles. -/
theorem withLifecycle (h : d.InStep config wall now)
    {f : Crew ResourceId Lifecycle.Failure → WatchedWorld →
      Crew ResourceId Lifecycle.Failure × WatchedWorld}
    (hf : ∀ ready, Crew.IsDoneInSteps config.lifecycleJob (PostedWorld.host wall)
      (WatchedWorld.IsAhead ready) now f) : (d.withLifecycle f).InStep config wall now := by
  obtain ⟨s, hreachable, hfits⟩ := h
  obtain ⟨team, posted, hsteps, hahead, hcrew⟩ :=
    hf s.ready (hfits.isAhead hreachable) hfits.lifecycle
  exact inStep_handOver (hreachable.lifecycle hsteps) hahead hcrew hfits.sweeps

/-- Something is done by the controller of the sweeps or its reconciles. -/
theorem withSweeps (h : d.InStep config wall now)
    {f : Crew Trigger Sweep.Failure → WatchedWorld → Crew Trigger Sweep.Failure × WatchedWorld}
    (hf : ∀ ready, Crew.IsDoneInSteps config.sweepJob (PostedWorld.host wall)
      (WatchedWorld.IsAhead ready) now f) : (d.withSweeps f).InStep config wall now := by
  obtain ⟨s, hreachable, hfits⟩ := h
  obtain ⟨team, posted, hsteps, hahead, hcrew⟩ :=
    hf s.ready (hfits.isAhead hreachable) hfits.sweeps
  exact inStep_handOver (hreachable.sweeps hsteps) hahead hfits.lifecycle hcrew

/-- All that happens in a round: four stretches of work, each of which is done in steps of the
system. -/
theorem round (h : d.InStep config wall now) :
    ((timeline config wall).round now d).InStep config wall now := by
  have hshadows := WatchedWorld.shadows wall
  have hlifecycle := h.withLifecycle fun ready =>
    Crew.isDoneInSteps_resumeDue (hshadows ready) config.lifecycleJob now
  have hsweeps := hlifecycle.withSweeps fun ready =>
    Crew.isDoneInSteps_resumeDue (hshadows ready) config.sweepJob now
  have hacted := hsweeps.withLifecycle fun ready =>
    Crew.isDoneInSteps_act (hshadows ready) config.lifecycleJob now
  exact hacted.withSweeps fun ready =>
    Crew.isDoneInSteps_act (hshadows ready) config.sweepJob now

/-- Time goes by, for the deployment and for the system alike. -/
theorem wait (h : d.InStep config wall now) {later : Instant} (hlater : now ≤ later) :
    d.InStep config wall later := by
  obtain ⟨s, hreachable, hfits⟩ := h
  have hwait : System.Step config wall s (s.wait later) :=
    .wait s (hfits.lifecycle.now ▸ hlater) (hfits.sweeps.now ▸ hlater)
  exact ⟨_, hreachable.next hwait, hfits.world, hfits.ready, hfits.news, hfits.demand,
    hfits.present, hfits.lifecycle.wait later, hfits.sweeps.wait later⟩

/-- Both controllers are told to shut down, in the deployment and in the system alike. -/
theorem signal (h : d.InStep config wall now) : d.signal.InStep config wall now := by
  obtain ⟨s, hreachable, hfits⟩ := h
  have hlifecycle := hreachable.next (.lifecycle s (.signal s.lifecycle s.posted))
  exact ⟨_, hlifecycle.next (.sweeps _ (.signal s.sweeps s.posted)), hfits.world, hfits.ready,
    hfits.news, hfits.demand, hfits.present, hfits.lifecycle.signal, hfits.sweeps.signal⟩

/-- The world is changed from outside, in one of the ways that the rules allow. -/
theorem edit (h : d.InStep config wall now) {f : WatchedWorld → WatchedWorld}
    (hedit : d.watched.Edit (f d.watched)) : (d.edit f).InStep config wall now := by
  obtain ⟨s, hreachable, hfits⟩ := h
  have hsound := hreachable.sound.posted
  obtain ⟨posted, hchange, hahead⟩ :=
    (hfits.isAhead hreachable).edit hsound.named hsound.legible hedit
  exact inStep_handOver (hreachable.next (.change s hchange)) hahead hfits.lifecycle hfits.sweeps

end InStep

/-- What comes about at a time in a simulation that begins without projects. -/
inductive Reachable (config : DeploymentConfig) (wall : Instant → Timestamp) :
    Instant → Deployment → Prop
  /-- Nothing has happened in a world without projects. -/
  | initial (now : Instant) {world : World}
      (hempty : world.projects.objects = SortedMap.empty)
      (hpresent : world.projects.vanishing = false) (hnamed : world.remote.WellNamed)
      (hlegible : world.remote.Legible) : Reachable config wall now { watched := { world } }
  /-- One more round of the indexes, the queues and their reconciles. -/
  | round {now : Instant} {d : Deployment} (h : Reachable config wall now d) :
      Reachable config wall now ((timeline config wall).round now d)
  /-- Time goes by, as much of it as may be. -/
  | wait {now later : Instant} {d : Deployment} (h : Reachable config wall now d)
      (hlater : now ≤ later) : Reachable config wall later d
  /-- Both controllers are told to shut down, and notice when they act. -/
  | signal {now : Instant} {d : Deployment} (h : Reachable config wall now d) :
      Reachable config wall now d.signal
  /-- The world is changed from outside, which the indexes hear of at once. -/
  | edit {now : Instant} {d : Deployment} (h : Reachable config wall now d)
      {f : WatchedWorld → WatchedWorld} (hedit : d.watched.Edit (f d.watched)) :
      Reachable config wall now (d.edit f)

namespace Reachable

/-- Every deployment that is simulated is a state of the whole system. -/
theorem fits (h : Reachable config wall now d) :
    ∃ s, System.Reachable config wall s ∧ d.Fits now s := by
  show d.InStep config wall now
  induction h with
  | initial now hempty hpresent hnamed hlegible =>
    exact ⟨_, .initial now hempty hnamed hlegible, rfl, rfl, rfl, rfl, hpresent, .initial now,
      .initial now⟩
  | round _ ih => exact ih.round
  | wait _ hlater ih => exact ih.wait hlater
  | signal _ ih => exact ih.signal
  | edit _ hedit ih => exact ih.edit hedit

/-- In a simulation a project only records a workspace as ready that is ready. -/
theorem isTruthful (h : Reachable config wall now d) {id : ResourceId} {p : Project}
    (hp : d.watched.world.projects.objects.get? id = some p) :
    p.IsTruthful d.watched.world.remote := by
  obtain ⟨s, hreachable, hfits⟩ := h.fits
  rw [hfits.world] at hp ⊢
  exact (hreachable.sound.posted.stored hp).2

/-- In a simulation the index always knows just what the projects record. -/
theorem ready_eq (h : Reachable config wall now d) (id : ResourceId) :
    d.watched.ready.get? id =
      (d.watched.world.projects.objects.get? id).bind Project.readyWorkspace? := by
  obtain ⟨s, hreachable, hfits⟩ := h.fits
  have hreplay := hreachable.sound.posted.replay id
  rw [hfits.news, List.foldl_nil] at hreplay
  rw [hfits.world, hfits.ready, hreplay]

/-! ### Virtual time -/

/-- Any number of rounds leads to something that comes about. -/
theorem rounds (h : Reachable config wall now d) (n : Nat) :
    Reachable config wall now ((timeline config wall).rounds now n d) := by
  induction n generalizing d with
  | zero => exact h
  | succ n ih =>
    rw [Timeline.rounds]
    split
    · split
      · exact ih h.round
      · exact h
    · exact h

/-- So do as many rounds as it takes until nothing is left to be done. -/
theorem settle (h : Reachable config wall now d) :
    Reachable config wall now ((timeline config wall).settle now d) :=
  h.rounds _

/-- The time goes by up to a target, with rounds at every instant at which there is something to do.
By induction on the way to the target. -/
theorem advance {target : Instant} (h : Reachable config wall now d) (htarget : now ≤ target) :
    Reachable config wall target ((timeline config wall).advance target now d) := by
  fun_induction Timeline.advance (timeline config wall) target now d with
  | case1 now d _ settled time hnext hlater ih =>
    have hsettled : Reachable config wall now settled := h.settle
    by_cases htime : time ≤ target
    · exact ih (hsettled.wait (Nat.le_of_lt hlater)) htime
    · rw [Timeline.advance, if_neg (fun hlt => htime (Nat.le_of_lt hlt))]
      exact hsettled.wait htarget
  | case2 now d _ settled => exact h.settle.wait htarget
  | case3 now d _ settled => exact h.settle.wait htarget
  | case4 now d => exact h.wait htarget

/-- The time goes by until something has come about. -/
theorem runUntil (h : Reachable config wall now d) (stop : Deployment → Bool) (n : Nat) :
    Reachable config wall ((timeline config wall).runUntil stop n now d).1
      ((timeline config wall).runUntil stop n now d).2 := by
  induction n generalizing now d with
  | zero => exact h
  | succ n ih =>
    rw [Timeline.runUntil]
    split
    · exact h.settle
    · split
      · exact ih (h.settle.wait (Nat.le_max_right _ _))
      · exact h.settle

end Reachable

end Deployment

end WorkspaceAccess
