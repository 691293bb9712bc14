import WorkspaceAccess.Proofs.Workspace.Provisioning

/-!
# Who Shares a Workspace

A workspace that was requested for a project is recorded on no other: the request of a second
project for it is refused, and so is a recorded workspace that turns out to be another project's. A
workspace without a recorded owner is adopted by every project that comes to it, and stays without
an owner, so that projects whose names derive the same workspace name share it.

So what is recorded on projects is one to one as far as owners are. The invariant is that whatever
is recorded on a project, or is about to be, serves the project (`MaySpeakOf`): a workspace of this
name is kept which is the project's own or nobody's. Others may do what they like except to remove a
workspace, give it to another project, or write these annotations themselves (`LeavesOwners`); a
workspace without an owner may be given one, and then it was not recorded on two projects before, or
it is no longer the case that all of them are served.

Of two projects that record the same workspace, each is served by it. If it has an owner it is the
owner of both, so that they have the same name.

## Main results

* `MaySpeakOf.mono`, `Leg.IsHonest.mono`: what serves a project serves it while workspaces keep
  their owners.
* `recorded?_of_patch`: a patch records the workspace on its project only.
* `Undisputed.start`, `Undisputed.change`, `Undisputed.turn`, `undisputed`: what is recorded on
  projects serves them throughout.
* `shared_workspaces_are_unowned`: no owner is recorded on a workspace that two projects of
  different names record.
* `adopted_workspace_is_unowned`, `unowned_workspaces_may_be_shared`: two projects that do share
  one.
-/

namespace WorkspaceAccess

/-- The name of the workspace that is recorded on a project. -/
def World.recorded? (world : World) (id : ResourceId) : Option String :=
  (world.projects.objects.get? id).bind (·.annotations.get? Annotations.workspaceName)

/-- Every workspace that was there is there, and has no other owner. -/
def InMemory.KeepsOwners (old new : InMemory) : Prop :=
  ∀ k ws, old.workspaces.get? k = some ws →
    ∃ found, new.workspaces.get? k = some found ∧
      (found.project = none ∨ found.project = ws.project)

/-- Where workspaces stay as they are they keep their owners. -/
theorem InMemory.Keeps.keepsOwners {old new : InMemory} (h : old.Keeps new) :
    old.KeepsOwners new := fun k ws hget => ⟨ws, h k ws hget, .inr rfl⟩

namespace Lifecycle

/-- Others change what they like, but no workspace is removed or given to another project, and
nobody else records a workspace on a project. -/
structure LeavesOwners (old new : World) : Prop where
  /-- Workspaces are still kept under their own names, if they were. -/
  named : old.remote.WellNamed → new.remote.WellNamed
  /-- All workspaces stay, with the owners that they have. -/
  owners : old.remote.KeepsOwners new.remote
  /-- What a project records now it recorded before. -/
  recorded : ∀ id w, new.recorded? id = some w → old.recorded? id = some w

/-- A workspace of this name is kept that serves a project. -/
def MaySpeakOf (r : InMemory) (id : ResourceId) (w : String) : Prop :=
  ∃ ws, r.workspaces.get? w = some ws ∧ ws.MayServe id.name

variable {id : ResourceId} {old new : InMemory}

/-- What serves a project serves it while workspaces keep their owners. -/
theorem MaySpeakOf.mono {w : String} (h : MaySpeakOf old id w) (hkeeps : old.KeepsOwners new) :
    MaySpeakOf new id w := by
  obtain ⟨ws, hget, hserves⟩ := h
  obtain ⟨found, hfound, hnone | hsame⟩ := hkeeps w ws hget
  · exact ⟨found, hfound, .inl hnone⟩
  · refine ⟨found, hfound, ?_⟩
    rw [WorkspaceInfo.MayServe, hsame]
    exact hserves

/-- What is to be recorded serves the project: a reconcile about to write speaks of a workspace that
it may speak of. -/
def Leg.IsHonest (id : ResourceId) (r : InMemory) : Leg Unit → Prop
  | recording ws => MaySpeakOf r id ws.name
  | _ => True

/-- What is to be recorded serves the project while workspaces keep their owners. -/
theorem Leg.IsHonest.mono {leg : Leg Unit} (h : leg.IsHonest id old)
    (hkeeps : old.KeepsOwners new) : leg.IsHonest id new := by
  cases leg with
  | recording ws => exact MaySpeakOf.mono h hkeeps
  | fetching | connecting | looking | creating | ended => trivial

/-- A patch records the workspace on its project only. -/
theorem recorded?_of_patch {ws : WorkspaceInfo} {world later : World} {j : ResourceId}
    {w : String}
    (hpatch : later.projects =
      (world.projects.patch Project.annotate id (desiredAnnotations ws)).2)
    (h : later.recorded? j = some w) : world.recorded? j = some w ∨ j = id ∧ w = ws.name := by
  rw [World.recorded?, hpatch, Option.bind_eq_some_iff] at h
  obtain ⟨project, hproject, hname⟩ := h
  rcases Store.get?_of_patch hproject with hsame | ⟨rfl, before, -, rfl⟩
  · left
    rw [World.recorded?, hsame]
    exact hname
  · right
    have hmerged : (before.annotations.merge (desiredAnnotations ws)).get?
        Annotations.workspaceName = some w := hname
    rw [SortedMap.get?_merge, get?_desiredAnnotations_name] at hmerged
    exact ⟨rfl, (Option.some.inj hmerged).symm⟩

/-- What is known of reconciles that record workspaces. -/
structure Undisputed (s : Provisioning) : Prop where
  /-- Workspaces are kept under their own names. -/
  named : s.world.remote.WellNamed
  /-- Every reconcile is at a leg, and records only what serves its project. -/
  reconciles : Interplay.Each (fun _ a => ∃ config id deadline leg,
    a = Leg.rest config id deadline leg ∧ leg.IsHonest id s.world.remote) s.activities
  /-- What is recorded on a project serves it. -/
  recorded : ∀ id w, s.world.recorded? id = some w → MaySpeakOf s.world.remote id w

namespace Undisputed

variable {s : Provisioning} {wall : Instant → Timestamp} {world : World}

/-- A reconcile is started. It has nothing to record yet. -/
theorem start (h : Undisputed s) (config : Config) (id : ResourceId) (deadline : Instant) :
    Undisputed (s.start (reconcile config id deadline)) where
  named := h.named
  reconciles := h.reconciles.concat ⟨config, id, deadline, .fetching, rfl, trivial⟩
  recorded := h.recorded

/-- The other reconciles keep what serves their projects, as long as the owners of workspaces are
kept. -/
theorem reconciles_mono (h : Undisputed s) (hkeeps : s.world.remote.KeepsOwners new) :
    Interplay.Each (fun _ a => ∃ config id deadline leg,
      a = Leg.rest config id deadline leg ∧ leg.IsHonest id new) s.activities := by
  refine h.reconciles.imp fun _ a => ?_
  rintro ⟨config, id, deadline, leg, rfl, hhonest⟩
  exact ⟨config, id, deadline, leg, rfl, hhonest.mono hkeeps⟩

/-- Others change something that leaves the owners of workspaces and the records of projects
alone. -/
theorem change (h : Undisputed s) (kind : Unit) (hchange : LeavesOwners s.world world) :
    Undisputed (s.change kind world) where
  named := hchange.named h.named
  reconciles := h.reconciles_mono hchange.owners
  recorded id w hw := (h.recorded id w (hchange.recorded id w hw)).mono hchange.owners

/-- A reconcile takes a turn, by which at most its own project comes to speak of a workspace. -/
theorem turn (h : Undisputed s) (i : Nat) (now : Instant) (inTime : Bool) :
    Undisputed (s.turn (World.host wall) i now inTime) := by
  rcases Interplay.turn_cases (World.host wall) i now inTime s with
    hsame | ⟨a, b, deed, later, hi, hturn, hnext⟩
  · rw [hsame]
    exact h
  obtain ⟨config, id, deadline, leg, rfl, hhonest⟩ := h.reconciles i a hi
  obtain ⟨next, rfl, hmove⟩ := Leg.move_of_turn hturn
  have hkeeps := hmove.keeps.keepsOwners
  have hnew : next.IsHonest id later.remote := by
    cases next with
    | recording ws =>
      obtain ⟨hget, hserves⟩ := hmove.serves h.named
      exact ⟨ws, hget, hserves⟩
    | fetching | connecting | looking | creating | ended => trivial
  rw [hnext]
  refine ⟨hmove.wellNamed h.named,
    (h.reconciles_mono hkeeps).set ⟨config, id, deadline, next, rfl, hnew⟩, ?_⟩
  intro j w hw
  rcases hmove.projects_cases with hsame | ⟨ws, rfl, hpatch⟩
  · have hbefore : s.world.recorded? j = some w := by
      rw [World.recorded?, ← hsame]
      exact hw
    exact (h.recorded j w hbefore).mono hkeeps
  · rcases recorded?_of_patch hpatch hw with hbefore | ⟨rfl, rfl⟩
    · exact (h.recorded j w hbefore).mono hkeeps
    · exact MaySpeakOf.mono hhonest hkeeps

end Undisputed

/-- What is recorded on projects serves them throughout, by induction on the interplay. -/
theorem undisputed {wall : Instant → Timestamp} {world : World} {s : Provisioning}
    (hnamed : world.remote.WellNamed) (hnone : ∀ id, world.recorded? id = none)
    (h : Interplay.Reachable (provisioning wall LeavesOwners) world s) : Undisputed s := by
  induction h with
  | initial =>
    refine ⟨hnamed, nofun, fun id w hw => ?_⟩
    have hw : world.recorded? id = some w := hw
    rw [hnone] at hw
    cases hw
  | next _ step ih =>
    cases step with
    | start ha =>
      obtain ⟨config, id, deadline, rfl⟩ := ha
      exact ih.start config id deadline
    | turn i now inTime => exact ih.turn i now inTime
    | change hchange => exact ih.change _ hchange

/-- When the same workspace is recorded on two projects of different names, then no owner is
recorded on the workspace. -/
theorem shared_workspaces_are_unowned {wall : Instant → Timestamp} {world : World}
    {s : Provisioning} (hnamed : world.remote.WellNamed)
    (hnone : ∀ id, world.recorded? id = none)
    (h : Interplay.Reachable (provisioning wall LeavesOwners) world s) {first second : ResourceId}
    (hnames : first.name ≠ second.name) {w : String}
    (hfirst : s.world.recorded? first = some w) (hsecond : s.world.recorded? second = some w) :
    ∃ ws, s.world.remote.workspaces.get? w = some ws ∧ ws.project = none := by
  have hundisputed := undisputed hnamed hnone h
  obtain ⟨ws, hget, hserves⟩ := hundisputed.recorded first w hfirst
  obtain ⟨found, hfound, hserves'⟩ := hundisputed.recorded second w hsecond
  rw [hget] at hfound
  obtain rfl := Option.some.inj hfound
  refine ⟨ws, hget, hserves.resolve_right fun howner => hnames ?_⟩
  rcases hserves' with hnobody | howner'
  · rw [howner] at hnobody
    cases hnobody
  · rw [howner] at howner'
    exact Option.some.inj howner'

/-! ### Two projects that share a workspace -/

/-- Two projects that derive the same name, under which someone else has added a workspace. -/
def adoptable : World :=
  { collidingNames with
    remote := InMemory.addWorkspace { sourceNamespace := "maintainerd" } "k8s-io" .ready true }

/-- Both projects are reconciled, one after the other, in the world with the one workspace. -/
def adopted : Provisioning :=
  let host := World.host fun _ => .epoch
  let first := Interplay.run host 0 0 4
    (Interplay.start { world := adoptable } (reconcile .standard (projectNamed "k8s.io") 1000))
  Interplay.run host 1 0 4 (first.start (reconcile .standard (projectNamed "k8s-io") 1000))

/-- The one workspace is kept under its name, so the hypotheses on names are met. -/
theorem wellNamed_adoptable : adoptable.remote.WellNamed :=
  (InMemory.Built.new "maintainerd").add "k8s-io" .ready true |>.wellNamed

/-- At first nothing is recorded on any project. -/
theorem recorded?_adoptable (id : ResourceId) : adoptable.recorded? id = none := by
  rw [World.recorded?, Option.bind_eq_none_iff]
  intro project hproject
  have hmem : (id, project) ∈ collidingNames.projects.objects.entries :=
    SortedMap.mem_entries_iff.mpr hproject
  have hall : ∀ e ∈ collidingNames.projects.objects.entries,
      e.2.annotations.get? Annotations.workspaceName = none := by decide
  exact hall _ hmem

/-- Nobody but the reconciles has changed anything, so the state is reachable whatever others may
do. -/
theorem reachable_adopted {MayChange : World → World → Prop} :
    Interplay.Reachable (provisioning (fun _ => .epoch) MayChange) adoptable adopted := by
  have hstart : ∀ name, (provisioning (fun _ => .epoch) MayChange).MayStart
      (reconcile .standard (projectNamed name) 1000) := fun name => ⟨_, _, _, rfl⟩
  have hinitial : Interplay.Reachable (provisioning (fun _ => .epoch) MayChange) adoptable
      { world := adoptable } := .initial
  have hfirst := (hinitial.next (.start _ (hstart "k8s.io"))).run 0 0 4
  exact (hfirst.next (.start _ (hstart "k8s-io"))).run 1 0 4

/-- In the end the same workspace is recorded on both. -/
theorem recorded?_adopted :
    adopted.world.recorded? (projectNamed "k8s.io") = some "k8s-io" ∧
      adopted.world.recorded? (projectNamed "k8s-io") = some "k8s-io" := by decide

/-- The workspace that the projects share has no owner. -/
theorem adopted_workspace_is_unowned :
    ∃ ws, adopted.world.remote.workspaces.get? "k8s-io" = some ws ∧ ws.project = none :=
  shared_workspaces_are_unowned wellNamed_adoptable recorded?_adoptable reachable_adopted
    (by decide : (projectNamed "k8s.io").name ≠ (projectNamed "k8s-io").name)
    recorded?_adopted.1 recorded?_adopted.2

/-- Projects of one namespace do not always get workspaces of their own, even if nobody but the
reconciles changes anything. -/
theorem unowned_workspaces_may_be_shared :
    ¬∀ (wall : Instant → Timestamp) (world : World) (s : Provisioning), world.remote.WellNamed →
      (∀ id, world.recorded? id = none) →
      Interplay.Reachable (provisioning wall fun _ _ => False) world s →
      ∀ (first second : ResourceId) (w : String), first.ns = second.ns →
        first.name ≠ second.name → s.world.recorded? first = some w →
        s.world.recorded? second ≠ some w := by
  intro h
  exact h _ _ _ wellNamed_adoptable recorded?_adoptable reachable_adopted _ _ _
    (by decide : (projectNamed "k8s.io").ns = (projectNamed "k8s-io").ns) (by decide)
    recorded?_adopted.1 recorded?_adopted.2

end Lifecycle

end WorkspaceAccess
