import WorkspaceAccess.CommandLine.Settings
import WorkspaceAccess.Reconcile.Exchange
import WorkspaceAccess.Simulation.Deployment

/-!
# What the Settings Set Up

Both controllers work within the same limits, and the staff whose access they keep are those of the
namespace in which staff members are watched: the roster that a sweep lists and the members whose
changes cause sweeps come from one setting and cannot differ.

`Settings.deployment` is the configuration of the simulated deployment
(`WorkspaceAccess.Simulation.Deployment`), and `Settings.premises` says to which namespaces and
objects the calls of the controllers are directed (`WorkspaceAccess.Reconcile.Exchange`). The retry
delays and the backoff are not settings; they are the standard ones.
-/

namespace WorkspaceAccess.Settings

/-- How the controllers are set up: one limit on workers and time for both, and the poll interval
for workspaces that are not ready. -/
def deployment (s : Settings) : DeploymentConfig where
  limits := ⟨s.workers, Span.ofSeconds s.reconcileTimeoutSeconds⟩
  lifecycle := { Lifecycle.Config.standard with
    pollInterval := Span.ofSeconds s.workspacePollSeconds }
  sweeps := Sweep.Config.standard

/-- Where the controllers direct their calls. -/
def premises (s : Settings) : Premises := ⟨⟨s.remote, s.staffNamespace⟩, s.staffNamespace⟩

/-- What the controllers watch and within which limits they work, for people, one line for each. -/
def report (s : Settings) : List String := [
  "projects: " ++ s.projectNamespace,
  "staff: " ++ s.premises.staffNamespace,
  "settings: " ++ s.remote.ns ++ "/" ++ s.remote.configMap,
  "credentials: " ++ s.remote.ns ++ "/" ++ s.remote.secret,
  "workers: " ++ toString s.deployment.limits.workers,
  "timeout: " ++ toString s.deployment.limits.timeout.seconds ++ "s",
  "poll interval: " ++ toString s.deployment.lifecycle.pollInterval.seconds ++ "s"]

end WorkspaceAccess.Settings
