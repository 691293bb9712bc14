import WorkspaceAccess.Access.Sweep
import WorkspaceAccess.Proofs.Reconcile.Inspection
import WorkspaceAccess.Reconcile.World

/-!
# What a Sweep Reads in Memory

A control plane in memory answers the reads of a sweep without being changed, so what they find and
how long they take can be read off the world. The first of them that fails is the last one.

There are three reads: the sweep connects, lists the workspaces, and lists the staff. They are under
one limit of time together. If they fit, the sweep has what it starts from, or the error of the read
that failed, at the very time at which the last answer came. If they do not, it has nothing but the
knowledge that its time is up, and the world is still as it was.

Reads that change nothing are an *inspection* (`Activity.Inspects`), and this module is the instance
for the reads of a sweep. It gives names to the two things that an inspection yields, what is found
(`basisOf`) and how long it takes (`readTime`), so that statements about whole sweeps can be made
with these and without a word about calls and answers.

## Main results

* `inspects_readBasis`: the reads find what a sweep starts from in the world, and leave it as it is.
* `run_readBasis_within`: with a limit, the reads find it when they fit, and otherwise nothing.
-/

namespace WorkspaceAccess

/-- How long a call takes, which is nothing unless the world says otherwise. -/
def World.delay (world : World) (call : Call Unit) : Nat := world.delays.getD call.label 0

namespace Sweep

/-- What a sweep starts from in a world, or why it cannot. -/
def basisOf (world : World) : Except Failure (Basis Unit) :=
  match world.remote.connect with
  | .error e => .error (.remote e)
  | .ok session =>
    match world.remote.listWorkspaces with
    | .error e => .error (.remote e)
    | .ok workspaces =>
      match world.staff.list with
      | .error e => .error (.list e)
      | .ok members => .ok ⟨session, workspaces, members⟩

/-- How long it takes to read what a sweep starts from, or to see that it cannot be read. -/
def readTime (world : World) : Nat :=
  world.delay .connect +
    match world.remote.connect with
    | .error _ => 0
    | .ok session =>
      world.delay (.listWorkspaces session) +
        match world.remote.listWorkspaces with
        | .error _ => 0
        | .ok _ => world.delay .listStaff

/-- The reads find what a sweep starts from in the world, and leave it as it is. -/
theorem inspects_readBasis (wall : Instant → Timestamp) (world : World) :
    ∃ calls, (World.host wall).timeOf world calls = readTime world ∧
      (readBasis : Activity Unit _).Inspects (World.host wall) world (basisOf world) calls := by
  rw [basisOf, readTime]
  cases hconnect : world.remote.connect with
  | error e => exact ⟨[.connect], rfl, .await (fun _ => Prod.ext hconnect rfl) (.done _)⟩
  | ok session =>
    cases hlist : world.remote.listWorkspaces with
    | error e =>
      exact ⟨[.connect, .listWorkspaces session], rfl,
        .await (fun _ => Prod.ext hconnect rfl) (.await (fun _ => Prod.ext hlist rfl) (.done _))⟩
    | ok workspaces =>
      refine ⟨[.connect, .listWorkspaces session, .listStaff], rfl,
        .await (fun _ => Prod.ext hconnect rfl) (.await (fun _ => Prod.ext hlist rfl)
          (.await (fun _ => rfl) ?_))⟩
      cases world.staff.list with
      | error e => exact .done _
      | ok members => exact .done _

/-- With a limit, the reads find it when they fit, and otherwise nothing. -/
theorem run_readBasis_within (wall : Instant → Timestamp) (world : World) (limit now : Instant) :
    let run := ((readBasis : Activity Unit _).within limit).run (World.host wall) world now
    (Fits (readTime world) now limit →
      run = ⟨some (basisOf world), world, now + readTime world⟩) ∧
    (¬Fits (readTime world) now limit → ∃ later, run = ⟨none, world, later⟩) := by
  obtain ⟨calls, htime, hinspects⟩ := inspects_readBasis wall world
  rw [← htime]
  exact hinspects.run_within limit now

end Sweep

end WorkspaceAccess
