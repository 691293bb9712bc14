import WorkspaceAccess.Access.Sweep
import WorkspaceAccess.Simulation.Crew
import WorkspaceAccess.Simulation.Timeline
import WorkspaceAccess.Simulation.WatchedWorld
import WorkspaceAccess.Workspace.Lifecycle

/-!
# A Whole Deployment

Both controllers, their queues and their indexes, around one outside world. What a reconcile changes
in the world reaches the indexes, and what the indexes ask for reaches the queues, so that a project
that becomes ready leads to a sweep and a sweep that records its outcome leads to nothing.

The state has three parts, the watched world and a crew for each controller. Every operation works
on one crew and the world and then hands over what the indexes have asked for
(`Deployment.handOver`), which keeps the demand empty between operations. In each round first the
reconciles of both controllers are resumed, then both controllers act.

Sweeps and lifecycles meet only in the world. `WorkspaceAccess.Proofs.Deployment.System` and its
neighbours prove what holds of the whole: which records the system comes to, and that a quiet system
has granted access everywhere.
-/

namespace WorkspaceAccess

/-- How a deployment is set up. Both controllers have the same limits. -/
structure DeploymentConfig where
  /-- The limits of each controller. -/
  limits : QueueLimits
  /-- When a workspace is looked at again. -/
  lifecycle : Lifecycle.Config
  /-- When a failed sweep is tried again. -/
  sweeps : Sweep.Config

namespace DeploymentConfig

/-- What the lifecycle controller is for. Its delays do not depend on the number of failures. -/
def lifecycleJob (c : DeploymentConfig) : Job ResourceId Lifecycle.Failure where
  policy := { c.limits with retryAfter := fun failure _ => c.lifecycle.retryAfter failure }
  reconcile := Lifecycle.reconcile c.lifecycle

/-- What the controller of the sweeps is for. Its delays grow with the failures in a row. -/
def sweepJob (c : DeploymentConfig) : Job Trigger Sweep.Failure where
  policy := { c.limits with retryAfter := c.sweeps.retryAfter }
  reconcile := Sweep.reconcile

end DeploymentConfig

/-- The state of a deployment: the world with its indexes, and the two crews. -/
structure Deployment where
  /-- The outside world and the indexes. -/
  watched : WatchedWorld
  /-- The lifecycle controller and its reconciles. -/
  lifecycle : Crew ResourceId Lifecycle.Failure := {}
  /-- The controller of the sweeps and its reconciles. -/
  sweeps : Crew Trigger Sweep.Failure := {}

namespace Deployment

/-- What the indexes asked for is enqueued, and nothing is asked for any more. -/
def handOver (s : Deployment) : Deployment where
  watched := { s.watched with demand := ⟨[], []⟩ }
  lifecycle := s.lifecycle.enqueueAll s.watched.demand.lifecycle
  sweeps := s.sweeps.enqueueAll s.watched.demand.sweeps

/-- Something is done by the lifecycle controller or its reconciles. -/
def withLifecycle (s : Deployment)
    (f : Crew ResourceId Lifecycle.Failure → WatchedWorld →
      Crew ResourceId Lifecycle.Failure × WatchedWorld) : Deployment :=
  let (lifecycle, watched) := f s.lifecycle s.watched
  { s with lifecycle, watched }.handOver

/-- Something is done by the controller of the sweeps or its reconciles. -/
def withSweeps (s : Deployment)
    (f : Crew Trigger Sweep.Failure → WatchedWorld →
      Crew Trigger Sweep.Failure × WatchedWorld) : Deployment :=
  let (sweeps, watched) := f s.sweeps s.watched
  { s with sweeps, watched }.handOver

/-- The world is changed from outside, and what the indexes ask for is handed over. -/
def edit (s : Deployment) (f : WatchedWorld → WatchedWorld) : Deployment :=
  { s with watched := f s.watched }.handOver

/-- Both controllers are told to shut down. -/
def signal (s : Deployment) : Deployment :=
  { s with lifecycle := s.lifecycle.signal, sweeps := s.sweeps.signal }

/-- Both controllers have stopped. -/
def hasStopped (s : Deployment) : Bool := s.lifecycle.hasStopped && s.sweeps.hasStopped

/-- A deployment as a process in virtual time: reconciles whose time has come are resumed, then the
controllers act. -/
def timeline (config : DeploymentConfig) (wall : Instant → Timestamp) : Timeline Deployment where
  round now s :=
    let host := WatchedWorld.host wall
    let s := s.withLifecycle (Crew.resumeDue host now)
    let s := s.withSweeps (Crew.resumeDue host now)
    let s := s.withLifecycle (Crew.act config.lifecycleJob host now)
    s.withSweeps (Crew.act config.sweepJob host now)
  next? now s :=
    (s.lifecycle.times config.lifecycleJob now ++ s.sweeps.times config.sweepJob now).min?

end Deployment

end WorkspaceAccess
