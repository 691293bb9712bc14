import Mathlib.Logic.Relation
import WorkspaceAccess.Proofs.Reconcile.Passage
import WorkspaceAccess.Proofs.Workspace.Provisioning

/-!
# Interrupted Provisioning Recovers

A reconcile of a project writes to two places, one after the other: it asks the control plane for a
workspace, and it records the workspace on the project. A call may fail without any effect, and a
reconcile may be cut short at any of its calls, so that it can end between the two. What it leaves
behind then is a workspace that no project records (`Interrupted`).

A later attempt takes another way to the same end: it finds the workspace instead of creating it.
Where no call fails or takes time, the reconcile has the same run from what an interrupted attempt
left behind as from the state before (`Interrupted.run_sync`), and an attempt that succeeds ends
where this run ends (`Leg.Continues`).

Faults are not part of what is compared. The stores of a world are its control plane and its
projects, without the faults that they show (`World.stores`), and a call either fails without any
effect or is answered as by the stores. So an attempt, in which faults come and go and calls are
given up, is compared with the run in the stores, in which nothing fails; and any number of failed
attempts leave that run as it was, by induction on them.

## Main results

* `Leg.answer_stores`, `Leg.Move.stores`: a move fails and leaves the stores alone, or it is one in
  the stores without their faults.
* `run_create_of_found`, `run_create_of_missing`, `run_obtain`, `run_sync_of_found`: runs in which
  no call fails or takes time.
* `Interrupted.run_sync`: whatever was left behind, the run comes to the same end.
* `Leg.Since.interrupted`, `Leg.Move.since`: wherever a reconcile fails, it has been interrupted.
* `Leg.Continues.move`: a reconcile goes on to the end of the run from the start, or it fails.
* `Attempt.run_sync_of_failedAttempts`: however often a reconcile fails, that run stays the same.
* `interrupted_provisioning_recovers`: what an attempt that fails leaves behind, and that one that
  succeeds does what it does without these failures.
* `zot_is_provisioned_at_last`: a project that could not be patched at first.
-/

namespace WorkspaceAccess

/-! ### Calls that fail -/

/-- What a call can fail with: an error of the remote control plane, or one of the local cluster. -/
@[reducible] def Call.Failure {σ : Type} : Call σ → Type
  | connect | getWorkspace .. | createWorkspace .. | listWorkspaces _ | writeBinding .. =>
    RemoteError
  | getProject _ | patchProject .. | listStaff | patchStaff .. => ApiError

/-- The answer of a call that fails, for any of the nine calls. -/
def Call.fail {σ : Type} : (call : Call σ) → call.Failure → call.Answer
  | connect, e => .error e
  | getWorkspace .., e => .error e
  | createWorkspace .., e => .error e
  | listWorkspaces _, e => .error e
  | writeBinding .., e => .error e
  | getProject _, e => .error e
  | patchProject .., e => .error e
  | listStaff, e => .error e
  | patchStaff .., e => .error e

namespace World

/-- The world as a host, where calls may also fail without any effect. -/
def flakyHost (wall : Instant → Timestamp)
    (fault : (call : Call Unit) → Clock → World → Option call.Failure) : Host Unit World :=
  { World.host wall with
    answer := fun call clock world =>
      match fault call clock world with
      | some e => (call.fail e, world)
      | none => World.answer call clock world }

/-- A call fails without any effect, or it is answered by the world. -/
theorem answer_of_flakyHost {wall : Instant → Timestamp}
    {fault : (call : Call Unit) → Clock → World → Option call.Failure} {call : Call Unit}
    {clock : Clock} {world later : World} {answer : call.Answer}
    (h : (flakyHost wall fault).answer call clock world = (answer, later)) :
    (∃ e, answer = call.fail e ∧ later = world) ∨
      (World.host wall).answer call clock world = (answer, later) := by
  simp only [flakyHost] at h
  split at h
  · rename_i e _
    obtain ⟨rfl, rfl⟩ := Prod.mk.inj h
    exact .inl ⟨e, rfl, rfl⟩
  · exact .inr h

end World

/-! ### What provisioning reads and writes -/

namespace InMemory

/-- The control plane without its faults, with which every request succeeds that the workspaces
allow. -/
def calm (r : InMemory) : InMemory :=
  { r with failing := SortedMap.empty, unreachable := false, misconfigured := false }

/-- The control plane with one more workspace of this name, which is managed and belongs to the
project, and is still to be scheduled. -/
def withRequested (r : InMemory) (name project : String) : InMemory :=
  { r with
    workspaces := r.workspaces.insert name
      { name, phase := .scheduling, url := none, managed := true, project := some project }
    creates := r.creates + 1 }

/-- With that one more workspace, there is a workspace of this name, and it belongs to the
project. -/
theorem exists_of_withRequested {r later : InMemory} {name project : String}
    (h : later.calm = r.calm.withRequested name project) :
    ∃ ws, later.workspaces.get? name = some ws ∧ ws.name = name ∧ ws.project = some project := by
  have hworkspaces : later.workspaces = r.workspaces.insert name
      { name, phase := .scheduling, url := none, managed := true, project := some project } :=
    congrArg (·.workspaces) h
  have hget := SortedMap.get?_insert_self r.workspaces name
    { name, phase := .scheduling, url := none, managed := true, project := some project }
  exact ⟨_, hworkspaces ▸ hget, rfl, rfl⟩

/-- A request fails without any effect, or it is answered the same without the faults. -/
theorem createWorkspace_calm (r : InMemory) (name project : String) :
    (∃ e, r.createWorkspace name project = (.error e, r)) ∨
      r.calm.createWorkspace name project =
        ((r.createWorkspace name project).1, (r.createWorkspace name project).2.calm) := by
  by_cases hunreachable : r.unreachable
  · exact .inl ⟨unreachableError, by simp [createWorkspace, hunreachable]⟩
  · right
    cases hget : r.workspaces.get? name <;> simp [createWorkspace, calm, hunreachable, hget]

end InMemory

namespace Store

variable {α : Type}

/-- The store without its faults, which answers every read and takes every patch. -/
def calm (s : Store α) : Store α := { s with readFault := none, patchFault := none }

/-- A patch fails without any effect, or it does the same without the faults. -/
theorem patch_calm (annotate : α → Annotations → α) (s : Store α) (id : ResourceId)
    (annotations : Annotations) :
    (∃ e, s.patch annotate id annotations = (.error e, s)) ∨
      s.calm.patch annotate id annotations =
        ((s.patch annotate id annotations).1, (s.patch annotate id annotations).2.calm) := by
  cases hfault : s.patchFault with
  | some refusal => exact .inl ⟨.refused refusal, by simp [patch, hfault]⟩
  | none =>
    right
    cases hvanishing : s.vanishing <;> cases hget : s.objects.get? id <;>
      simp [patch, calm, hfault, hvanishing, hget]

/-- A patch that fails changes nothing in the store. -/
theorem eq_of_patch_fails {annotate : α → Annotations → α} {s later : Store α} {id : ResourceId}
    {annotations : Annotations} {e : ApiError}
    (h : s.patch annotate id annotations = (.error e, later)) : later = s := by
  rw [patch] at h
  split at h
  · exact (Prod.mk.inj h).2.symm
  split at h
  · cases h
  split at h <;> cases h

end Store

/-- What provisioning reads and writes of a world: the control plane and the projects, without
their faults. -/
def World.stores (w : World) : World where
  remote := w.remote.calm
  projects := w.projects.calm

namespace Lifecycle

variable {wall : Instant → Timestamp} {config : Config} {id : ResourceId} {now : Instant}
  {world later old new : World} {leg next : Leg Unit} {deed : Deed Unit}

/-! ### Moves in a world with faults -/

namespace Leg

section

variable {fault : (call : Call Unit) → Clock → World → Option call.Failure}

/-- A call of a reconcile fails without any effect, or it is answered the same, at any time, in the
stores without their faults. -/
theorem answer_stores (id : ResourceId) (leg : Leg Unit) {call : Call Unit}
    (hcall : leg.call? id = some call) {clock : Clock} {answer : call.Answer}
    (h : (World.flakyHost wall fault).answer call clock world = (answer, later)) :
    (∃ e, answer = call.fail e ∧ later = world) ∨
      ∀ clock, (World.host wall).answer call clock world.stores = (answer, later.stores) := by
  rcases World.answer_of_flakyHost h with hfails | h
  · exact .inl hfails
  cases leg with
  | fetching =>
    obtain rfl := Option.some.inj hcall
    obtain ⟨rfl, rfl⟩ := Prod.mk.inj h
    cases hfault : world.projects.readFault with
    | some refusal => exact .inl ⟨.refused refusal, by rw [Store.get, hfault]; rfl, rfl⟩
    | none =>
      refine .inr fun _ => ?_
      rw [Store.get, hfault]
      rfl
  | connecting current =>
    obtain rfl := Option.some.inj hcall
    obtain ⟨rfl, rfl⟩ := Prod.mk.inj h
    by_cases hfault : world.remote.misconfigured
    · exact .inl ⟨InMemory.misconfiguredError, if_pos hfault, rfl⟩
    · refine .inr fun _ => ?_
      rw [InMemory.connect, if_neg hfault]
      rfl
  | looking session current name =>
    obtain rfl := Option.some.inj hcall
    obtain ⟨rfl, rfl⟩ := Prod.mk.inj h
    by_cases hfault : world.remote.unreachable
    · exact .inl ⟨InMemory.unreachableError, if_pos hfault, rfl⟩
    · refine .inr fun _ => ?_
      rw [InMemory.getWorkspace, if_neg hfault]
      rfl
  | creating session current =>
    obtain rfl := Option.some.inj hcall
    have hcases := world.remote.createWorkspace_calm (workspaceName id.name) id.name
    rcases hcreate : world.remote.createWorkspace (workspaceName id.name) id.name with ⟨r, remote⟩
    simp only [World.host, World.answer, hcreate] at h
    rw [hcreate] at hcases
    obtain ⟨rfl, rfl⟩ := Prod.mk.inj h
    rcases hcases with ⟨e, hfails⟩ | hcalm
    · obtain ⟨rfl, rfl⟩ := Prod.mk.inj hfails
      exact .inl ⟨e, rfl, rfl⟩
    · refine .inr fun _ => ?_
      simp only [World.host, World.answer, World.stores, hcalm]
  | recording ws =>
    obtain rfl := Option.some.inj hcall
    have hcases := world.projects.patch_calm Project.annotate id (desiredAnnotations ws)
    rcases hpatch : world.projects.patch Project.annotate id (desiredAnnotations ws) with
      ⟨r, projects⟩
    simp only [World.host, World.answer, hpatch] at h
    rw [hpatch] at hcases
    obtain ⟨rfl, rfl⟩ := Prod.mk.inj h
    rcases hcases with ⟨e, hfails⟩ | hcalm
    · obtain ⟨rfl, rfl⟩ := Prod.mk.inj hfails
      exact .inl ⟨e, rfl, rfl⟩
    · refine .inr fun _ => ?_
      simp only [World.host, World.answer, World.stores, hcalm]
  | ended => cases hcall

/-- A move fails and leaves the stores alone, or it is one in the stores without their faults, at
any time. -/
theorem Move.stores
    (h : Move (World.flakyHost wall fault) config id now world leg deed next later) :
    (∃ failure, next = ended (.error failure)) ∧ later.stores = world.stores ∨
      (∀ call, deed ≠ .gaveUp call) ∧
        ∀ now, Move (World.host wall) config id now world.stores leg deed next later.stores := by
  cases h with
  | fetch h =>
    rcases answer_stores id fetching rfl h with ⟨e, he, -⟩ | h
    · cases he
    · exact .inr ⟨nofun, fun _ => .fetch (h _)⟩
  | fetchNothing h =>
    rcases answer_stores id fetching rfl h with ⟨e, he, -⟩ | h
    · cases he
    · exact .inr ⟨nofun, fun _ => .fetchNothing (h _)⟩
  | fetchFails h =>
    rcases answer_stores id fetching rfl h with ⟨e, -, rfl⟩ | h
    · exact .inl ⟨⟨_, rfl⟩, rfl⟩
    · exact .inr ⟨nofun, fun _ => .fetchFails (h _)⟩
  | @connect current _ _ h =>
    rcases answer_stores id (connecting current) rfl h with ⟨e, he, -⟩ | h
    · cases he
    · exact .inr ⟨nofun, fun _ => .connect (h _)⟩
  | @connectFails current _ _ h =>
    rcases answer_stores id (connecting current) rfl h with ⟨e, -, rfl⟩ | h
    · exact .inl ⟨⟨_, rfl⟩, rfl⟩
    · exact .inr ⟨nofun, fun _ => .connectFails (h _)⟩
  | @look session current name _ _ h =>
    rcases answer_stores id (looking session current name) rfl h with
      ⟨e, rfl, rfl⟩ | h
    · exact .inl ⟨⟨_, rfl⟩, rfl⟩
    · exact .inr ⟨nofun, fun _ => .look (h _)⟩
  | @create session current _ _ h =>
    rcases answer_stores id (creating session current) rfl h with ⟨e, rfl, rfl⟩ | h
    · exact .inl ⟨⟨_, rfl⟩, rfl⟩
    · exact .inr ⟨nofun, fun _ => .create (h _)⟩
  | @patch ws _ _ h =>
    rcases answer_stores id (recording ws) rfl h with ⟨e, rfl, rfl⟩ | h
    · exact .inl ⟨⟨_, rfl⟩, rfl⟩
    · exact .inr ⟨nofun, fun _ => .patch (h _)⟩
  | giveUp => exact .inl ⟨⟨_, rfl⟩, rfl⟩

end

/-- A reconcile that has ended does not move any more. -/
theorem Move.ne_ended {σ ω : Type} {host : Host σ ω} {world later : ω} {leg next : Leg σ}
    {deed : Deed σ} (h : Move host config id now world leg deed next later)
    (result : Except Failure Action) : leg ≠ ended result := by
  rintro rfl
  cases h with
  | giveUp hcall => cases hcall

/-- A move in which a call is answered without delay is a part of the run of the reconcile. -/
theorem Move.run (h : Move (World.host wall) config id now world.stores leg deed next later)
    (hanswered : ∀ call, deed ≠ .gaveUp call) (deadline : Instant) :
    (leg.rest config id deadline).run (World.host wall) world.stores now =
      (next.rest config id deadline).run (World.host wall) later now :=
  Activity.run_of_turn (fun _ => rfl) (h.turn hanswered deadline)

end Leg

/-! ### Runs in which no call fails or takes time -/

/-- Without delays calls take no time, so no wait comes to its limit. -/
theorem prompt_host (wall : Instant → Timestamp) :
    (World.host wall).Prompt fun w => w.delays = SortedMap.empty where
  delay h call := by
    simp only [World.host, h]
    rfl
  answer h call _ := by cases call <;> exact h
  report h _ := h

/-- The deadline does not matter where no call takes time. -/
theorem run_bounded (a : Activity Unit (Except Failure Action)) (deadline : Instant) (w : World)
    (now : Instant) :
    (Leg.bounded deadline a).run (World.host wall) w.stores now =
      a.run (World.host wall) w.stores now := by
  rw [Leg.bounded, Activity.map, Activity.run_bind, Activity.run_within (prompt_host wall)]
  · rfl
  · rfl

/-- The workspace of the project is there already, and is claimed as it is. -/
theorem run_create_of_found {w : World} {ws : WorkspaceInfo}
    (h : w.remote.workspaces.get? (workspaceName id.name) = some ws) :
    (create () id).run (World.host wall) w.stores now = ⟨ws.claim id.name, w.stores, now⟩ := by
  have hanswer : w.remote.calm.createWorkspace (workspaceName id.name) id.name =
      (ws.claim id.name, w.remote.calm) := by
    simp [InMemory.createWorkspace, InMemory.calm, h]
  simp only [create, Activity.run, World.host, World.answer, World.stores, hanswer]
  rfl

/-- The workspace of the project is added, requested for the project. -/
theorem run_create_of_missing {w : World}
    (h : w.remote.workspaces.get? (workspaceName id.name) = none) :
    (create () id).run (World.host wall) w.stores now =
      ⟨.ok (InMemory.requested (workspaceName id.name) id.name),
        { w.stores with remote := w.stores.remote.withRequested (workspaceName id.name) id.name },
        now⟩ := by
  have hanswer : w.remote.calm.createWorkspace (workspaceName id.name) id.name =
      (.ok (InMemory.requested (workspaceName id.name) id.name),
        w.remote.calm.withRequested (workspaceName id.name) id.name) := by
    simp [InMemory.createWorkspace, InMemory.calm, InMemory.withRequested, InMemory.requested, h]
  simp only [create, Activity.run, World.host, World.answer, World.stores, hanswer]
  rfl

/-- The recorded workspace is looked up, and the workspace of the project is asked for if it is
gone. -/
theorem run_obtain (w : World) (current : Annotations) :
    (obtain () id current).run (World.host wall) w.stores now =
      match current.get? Annotations.workspaceName with
      | none => (create () id).run (World.host wall) w.stores now
      | some name =>
        match w.remote.workspaces.get? name with
        | none => (create () id).run (World.host wall) w.stores now
        | some ws => ⟨ws.claim id.name, w.stores, now⟩ := by
  rw [obtain]
  cases current.get? Annotations.workspaceName with
  | none => rfl
  | some name =>
    have hanswer : w.remote.calm.getWorkspace name = .ok (w.remote.workspaces.get? name) := rfl
    simp only [Activity.run, World.host, World.answer, World.stores, hanswer]
    cases w.remote.workspaces.get? name <;> rfl

/-- A project that is there is looked up, and then its workspace is obtained and recorded. -/
theorem run_sync_of_found {w : World} {p : Project}
    (h : w.projects.objects.get? id = some p) :
    (sync config id).run (World.host wall) w.stores now =
      ((obtain () id p.annotations).bind (Leg.recordObtained config id p.annotations)).run
        (World.host wall) w.stores now := by
  have hanswer : w.projects.calm.get id = .ok (some p) := by
    rw [Store.get]
    exact congrArg Except.ok h
  simp only [sync, Activity.run, World.host, World.answer, World.stores, hanswer]
  rfl

/-! ### What an interrupted attempt leaves behind -/

/-- What the stores may have become by an attempt that failed. -/
inductive Interrupted (id : ResourceId) (old : World) : World → Prop
  /-- Nothing came of it: both stores are as they were. -/
  | unchanged : Interrupted id old old
  /-- The workspace of the project was added and not recorded. -/
  | requested {p : Project} (hproject : old.projects.objects.get? id = some p)
      (hmissing : ∀ name, p.annotations.get? Annotations.workspaceName = some name →
        old.remote.workspaces.get? name = none)
      (hnone : old.remote.workspaces.get? (workspaceName id.name) = none) :
      Interrupted id old
        { old with remote := old.remote.withRequested (workspaceName id.name) id.name }

/-- Whatever was left behind, the run of a reconcile comes to the same end: a workspace that was
added is found, and it is the project's. -/
theorem Interrupted.run_sync (h : Interrupted id old.stores new.stores) :
    (sync config id).run (World.host wall) new.stores now =
      (sync config id).run (World.host wall) old.stores now := by
  generalize hnew : new.stores = w at h
  cases h with
  | unchanged => rfl
  | @requested p hproject hmissing hnone =>
    have hproject : old.projects.objects.get? id = some p := hproject
    have hnone : old.remote.workspaces.get? (workspaceName id.name) = none := hnone
    have hsame : new.projects.objects.get? id = some p :=
      (congrArg (·.projects.objects.get? id) hnew).trans hproject
    have hworkspaces : new.remote.workspaces = old.remote.workspaces.insert (workspaceName id.name)
        (InMemory.requested (workspaceName id.name) id.name) :=
      congrArg (·.remote.workspaces) hnew
    have hclaim : (InMemory.requested (workspaceName id.name) id.name).claim id.name =
        .ok (InMemory.requested (workspaceName id.name) id.name) := if_pos rfl
    have hadds : (create () id).run (World.host wall) old.stores now =
        ⟨.ok (InMemory.requested (workspaceName id.name) id.name), new.stores, now⟩ := by
      rw [run_create_of_missing hnone, hnew]
    have hfinds : (create () id).run (World.host wall) new.stores now =
        ⟨.ok (InMemory.requested (workspaceName id.name) id.name), new.stores, now⟩ := by
      rw [run_create_of_found (hworkspaces ▸ SortedMap.get?_insert_self _ _ _), hclaim]
    have hobtain : (obtain () id p.annotations).run (World.host wall) new.stores now =
        (obtain () id p.annotations).run (World.host wall) old.stores now := by
      rw [run_obtain new, run_obtain old]
      cases hname : p.annotations.get? Annotations.workspaceName with
      | none => exact hfinds.trans hadds.symm
      | some name =>
        have hgone : old.remote.workspaces.get? name = none := hmissing name hname
        -- The project may record the very name under which the workspace was added: then it is
        -- found already when that name is looked up.
        by_cases hown : name = workspaceName id.name
        · simp only [hworkspaces, hown, SortedMap.get?_insert_self, hnone]
          exact (congrArg (Ended.mk · _ _) hclaim).trans hadds.symm
        · simp only [hworkspaces, SortedMap.get?_insert_of_ne hown, hgone]
          exact hfinds.trans hadds.symm
    rw [← hnew, run_sync_of_found hsame, run_sync_of_found hproject, Activity.run_bind,
      Activity.run_bind, hobtain]

/-! ### What an attempt has done -/

namespace Leg

/-- What is known on a leg of the stores, by what they were at the start. -/
def Since (id : ResourceId) (old new : World) : Leg Unit → Prop
  | fetching => new = old
  | connecting current =>
    new = old ∧ (old.projects.objects.get? id).map Project.annotations = some current
  | looking _ current name =>
    new = old ∧ (old.projects.objects.get? id).map Project.annotations = some current ∧
      current.get? Annotations.workspaceName = some name
  | creating _ current =>
    new = old ∧ (old.projects.objects.get? id).map Project.annotations = some current ∧
      ∀ name, current.get? Annotations.workspaceName = some name →
        old.remote.workspaces.get? name = none
  | recording _ | ended (.error _) => Interrupted id old new
  | ended (.ok _) => True

/-- Wherever a reconcile fails before its end, it has been interrupted. -/
theorem Since.interrupted (h : leg.Since id old new) (hleg : ∀ result, leg ≠ ended result) :
    Interrupted id old new := by
  cases leg with
  | fetching =>
    obtain rfl : new = old := h
    exact .unchanged
  | connecting | looking | creating =>
    obtain ⟨rfl, -⟩ := h
    exact .unchanged
  | recording => exact h
  | ended result => exact absurd rfl (hleg result)

/-- Whether a workspace was obtained or not, the stores are those of an interrupted attempt. -/
theorem since_obtained (h : Interrupted id old new) (current : Annotations)
    (answer : Except RemoteError WorkspaceInfo) :
    (obtained config current answer : Leg Unit).Since id old new := by
  cases answer with
  | error e => exact h
  | ok ws =>
    rw [obtained]
    split
    · trivial
    · exact h

/-- What is known of the stores is kept by the moves. -/
theorem Move.since (h : Move (World.host wall) config id now world leg deed next later)
    (hanswered : ∀ call, deed ≠ .gaveUp call) (hsince : leg.Since id old world) :
    next.Since id old later := by
  have hinterrupted := hsince.interrupted h.ne_ended
  cases h with
  | fetch h =>
    obtain ⟨hget, rfl⟩ := Prod.mk.inj h
    obtain rfl : world = old := hsince
    exact ⟨rfl, by rw [Store.get?_of_get hget]; rfl⟩
  | fetchNothing => trivial
  | fetchFails h | connectFails h =>
    obtain ⟨-, rfl⟩ := Prod.mk.inj h
    exact hinterrupted
  | @connect current _ _ h =>
    obtain ⟨-, rfl⟩ := Prod.mk.inj h
    obtain ⟨rfl, hfound⟩ := hsince
    cases hname : current.get? Annotations.workspaceName with
    | none =>
      rw [connected, hname]
      refine ⟨rfl, hfound, fun name h => ?_⟩
      rw [hname] at h
      cases h
    | some name =>
      rw [connected, hname]
      exact ⟨rfl, hfound, hname⟩
  | @look _ current name answer _ h =>
    obtain ⟨hanswer, rfl⟩ := Prod.mk.inj h
    obtain ⟨rfl, hfound, hname⟩ := hsince
    rcases answer with e | ⟨_ | ws⟩
    · exact .unchanged
    · refine ⟨rfl, hfound, fun other hother => ?_⟩
      obtain rfl : name = other := Option.some.inj (hname.symm.trans hother)
      exact InMemory.get?_of_getWorkspace hanswer
    · exact since_obtained .unchanged current _
  | @create _ current answer _ h =>
    obtain ⟨rfl, hfound, hmissing⟩ := hsince
    obtain ⟨p, hproject, rfl⟩ := Option.map_eq_some_iff.mp hfound
    refine since_obtained ?_ p.annotations answer
    rcases hcreate : world.remote.createWorkspace (workspaceName id.name) id.name with ⟨r, remote⟩
    have hcases := world.remote.createWorkspace_cases (workspaceName id.name) id.name
    simp only [World.host, World.answer, hcreate] at h
    rw [hcreate] at hcases
    obtain ⟨-, rfl⟩ := Prod.mk.inj h
    rcases hcases with ⟨e, hsame⟩ | ⟨found, -, hsame⟩ | ⟨hnone, hadds⟩
    · obtain ⟨-, rfl⟩ := Prod.mk.inj hsame
      exact .unchanged
    · obtain ⟨-, rfl⟩ := Prod.mk.inj hsame
      exact .unchanged
    · obtain ⟨-, rfl⟩ := Prod.mk.inj hadds
      exact .requested hproject hmissing hnone
  | @patch ws answer _ h =>
    cases answer with
    | ok found => trivial
    | error e =>
      rcases hpatch : world.projects.patch Project.annotate id (desiredAnnotations ws) with
        ⟨r, projects⟩
      simp only [World.host, World.answer, hpatch] at h
      obtain ⟨rfl, rfl⟩ := Prod.mk.inj h
      obtain rfl := Store.eq_of_patch_fails hpatch
      exact hinterrupted
  | giveUp => exact absurd rfl (hanswered _)

/-- A reconcile that has come to a leg and has not failed comes to the end of the run from the
start. -/
structure Continues (wall : Instant → Timestamp) (config : Config) (id : ResourceId)
    (deadline : Instant) (old new : World) (leg : Leg Unit) : Prop where
  /-- What is known of the stores, from when it began and from now. -/
  since : leg.Since id old.stores new.stores
  /-- What is left of the run is its end. -/
  run : (∀ failure, leg ≠ ended (.error failure)) → ∀ now,
    (leg.rest config id deadline).run (World.host wall) new.stores now =
      (sync config id).run (World.host wall) old.stores now

/-- A reconcile goes on to the end of the run from the start, or it fails. -/
theorem Continues.move {fault : (call : Call Unit) → Clock → World → Option call.Failure}
    {deadline : Instant} (h : leg.Continues wall config id deadline old world)
    (hmove : Move (World.flakyHost wall fault) config id now world leg deed next later) :
    next.Continues wall config id deadline old later := by
  rcases hmove.stores with ⟨⟨failure, rfl⟩, hsame⟩ | ⟨hanswered, hcalm⟩
  · -- A call that fails has no effect, so the stores are still those of an interrupted attempt.
    refine ⟨?_, fun hnext => absurd rfl (hnext failure)⟩
    rw [hsame]
    exact h.since.interrupted hmove.ne_ended
  · refine ⟨(hcalm now).since hanswered h.since, fun _ now => ?_⟩
    rw [← h.run (fun failure => hmove.ne_ended (.error failure)) now]
    exact ((hcalm now).run hanswered deadline).symm

end Leg

/-- Others leave the control plane and the projects alone, but for the faults that they show. -/
def SparesStores (old new : World) : Prop := new.stores = old.stores

/-- A reconcile goes on as before when others have left the stores alone. -/
theorem Leg.Continues.of_spares {deadline : Instant}
    (h : leg.Continues wall config id deadline old world) (hspares : SparesStores world later) :
    leg.Continues wall config id deadline old later := by
  have hsame : later.stores = world.stores := hspares
  exact ⟨hsame ▸ h.since, hsame ▸ h.run⟩

/-- A reconcile of a project comes to an end, while calls may fail or be given up anywhere and
nobody else changes the control plane or the projects. -/
def Attempt (wall : Instant → Timestamp) (config : Config) (id : ResourceId) (world : World)
    (result : Except Failure Action) (later : World) : Prop :=
  ∃ deadline fault deeds, Passage (World.flakyHost wall fault) SparesStores
    (reconcile config id deadline) world deeds (.done result) later

/-- An attempt that failed, with whatever error, and the world that it left. -/
def FailedAttempt (wall : Instant → Timestamp) (config : Config) (id : ResourceId)
    (world later : World) : Prop :=
  ∃ failure, Attempt wall config id world (.error failure) later

/-- On its way a reconcile is at a leg. -/
theorem exists_leg_of_passage {deadline : Instant}
    {fault : (call : Call Unit) → Clock → World → Option call.Failure} {deeds : List (Deed Unit)}
    {a : Activity Unit (Except Failure Action)}
    (h : Passage (World.flakyHost wall fault) SparesStores (reconcile config id deadline) world
      deeds a later) :
    ∃ leg : Leg Unit, a = leg.rest config id deadline ∧
      leg.Continues wall config id deadline world later :=
  Leg.exists_of_passage (fun _ leg => leg.Continues wall config id deadline world) h
    ⟨rfl, fun _ now => run_bounded (sync config id) deadline world now⟩
    (fun hcontinues hmove => hcontinues.move hmove)
    fun hcontinues hsame => hcontinues.of_spares hsame

namespace Attempt

/-- A reconcile that fails has been interrupted, and has left no more than a workspace behind. -/
theorem interrupted {failure : Failure} (h : Attempt wall config id world (.error failure) later) :
    Interrupted id world.stores later.stores := by
  obtain ⟨deadline, fault, deeds, hpassage⟩ := h
  obtain ⟨leg, hleg, hcontinues⟩ := exists_leg_of_passage hpassage
  obtain rfl := Leg.eq_ended_of_rest hleg.symm
  exact hcontinues.since

/-- A reconcile that succeeds ends where the run ends in which no call fails or takes time. -/
theorem run_sync {action : Action} (h : Attempt wall config id world (.ok action) later)
    (now : Instant) :
    (sync config id).run (World.host wall) world.stores now = ⟨.ok action, later.stores, now⟩ := by
  obtain ⟨deadline, fault, deeds, hpassage⟩ := h
  obtain ⟨leg, hleg, hcontinues⟩ := exists_leg_of_passage hpassage
  obtain rfl := Leg.eq_ended_of_rest hleg.symm
  exact (hcontinues.run nofun now).symm

/-- A run is an attempt: the one in which nobody else does anything. -/
theorem of_run (wall : Instant → Timestamp) (config : Config) (id : ResourceId)
    (deadline : Instant) (world : World) (now : Instant) :
    Attempt wall config id world
      ((reconcile config id deadline).run (World.host wall) world now).result
      ((reconcile config id deadline).run (World.host wall) world now).world :=
  ⟨deadline, fun _ _ _ => none, _, passage_run (World.host wall) SparesStores _ world now⟩

/-- Faults can come and go before an attempt, as they are no part of the stores. -/
theorem of_change {between : World} {result : Except Failure Action}
    (hspares : SparesStores world between) (h : Attempt wall config id between result later) :
    Attempt wall config id world result later := by
  obtain ⟨deadline, fault, deeds, hpassage⟩ := h
  exact ⟨deadline, fault, deeds, hpassage.of_change hspares⟩

end Attempt

/-- However often a reconcile fails, the run in which no call fails or takes time stays the same. -/
theorem run_sync_of_failedAttempts {between : World}
    (h : Relation.ReflTransGen (FailedAttempt wall config id) world between) (now : Instant) :
    (sync config id).run (World.host wall) between.stores now =
      (sync config id).run (World.host wall) world.stores now := by
  induction h with
  | refl => rfl
  | tail _ hfails ih =>
    obtain ⟨failure, hattempt⟩ := hfails
    exact hattempt.interrupted.run_sync.trans ih

/-- A reconcile that fails leaves the projects as they were, and the control plane too, except that
the workspace of the project may have been added for it. However often it has failed, an attempt
that succeeds does what one that succeeds does without these failures, and there is such a one. -/
theorem interrupted_provisioning_recovers (wall : Instant → Timestamp) (config : Config)
    (id : ResourceId) (world : World) :
    (∀ failure later, Attempt wall config id world (.error failure) later →
      later.projects.objects = world.projects.objects ∧
        (later.remote.calm = world.remote.calm ∨
          world.remote.workspaces.get? (workspaceName id.name) = none ∧
            later.remote.calm =
              world.remote.calm.withRequested (workspaceName id.name) id.name ∧
            ∃ ws, later.remote.workspaces.get? (workspaceName id.name) = some ws ∧
              ws.name = workspaceName id.name ∧ ws.project = some id.name)) ∧
      ∀ between action later,
        Relation.ReflTransGen (FailedAttempt wall config id) world between →
        Attempt wall config id between (.ok action) later →
        (∃ direct, Attempt wall config id world (.ok action) direct) ∧
          ∀ other direct, Attempt wall config id world (.ok other) direct →
            other = action ∧ direct.projects.objects = later.projects.objects ∧
              direct.remote.calm = later.remote.calm := by
  constructor
  · intro failure later hattempt
    have hinterrupted := hattempt.interrupted
    generalize hlater : later.stores = w at hinterrupted
    cases hinterrupted with
    | unchanged =>
      exact ⟨congrArg (·.projects.objects) hlater, .inl (congrArg (·.remote) hlater)⟩
    | requested _ _ hnone =>
      have hremote : later.remote.calm =
          world.remote.calm.withRequested (workspaceName id.name) id.name :=
        congrArg (·.remote) hlater
      exact ⟨congrArg (·.projects.objects) hlater,
        .inr ⟨hnone, hremote, InMemory.exists_of_withRequested hremote⟩⟩
  · intro between action later hfailed hattempt
    have hrun : ∀ now, (sync config id).run (World.host wall) world.stores now =
        ⟨.ok action, later.stores, now⟩ := fun now =>
      (run_sync_of_failedAttempts hfailed now).symm.trans (hattempt.run_sync now)
    constructor
    · have hdirect := Attempt.of_run wall config id 0 world.stores 0
      have hreconcile : (reconcile config id 0).run (World.host wall) world.stores 0 =
          ⟨.ok action, later.stores, 0⟩ :=
        (run_bounded (sync config id) 0 world 0).trans (hrun 0)
      rw [hreconcile] at hdirect
      have hspares : SparesStores world world.stores := rfl
      exact ⟨later.stores, hdirect.of_change hspares⟩
    · intro other direct hother
      have hsame := (hother.run_sync 0).symm.trans (hrun 0)
      obtain ⟨haction, hstores, -⟩ := Ended.mk.inj hsame
      exact ⟨Except.ok.inj haction, congrArg (·.projects.objects) hstores,
        congrArg (·.remote) hstores⟩

/-! ### A project that could not be patched at first -/

/-- A new project, in a cluster that refuses patches. -/
def readOnly : World where
  remote := { sourceNamespace := "maintainerd" }
  projects :=
    { newProjects ["zot"] with patchFault := some ⟨"Failure", "read-only", "Forbidden", 403⟩ }

/-- A reconcile of the project that is alone in a world. -/
def reconcileZot (world : World) : Ended World (Except Failure Action) :=
  (reconcile .standard (projectNamed "zot") 1000).run (World.host fun _ => .epoch) world 0

/-- The world after a first reconcile, where patches are no longer refused. -/
def writableAgain : World :=
  let world := (reconcileZot readOnly).world
  { world with projects := { world.projects with patchFault := none } }

/-- The first reconcile adds a workspace that is not recorded, and the second one records it. -/
theorem zot_is_provisioned_at_last :
    FailedAttempt (fun _ => .epoch) .standard (projectNamed "zot") readOnly
        (reconcileZot readOnly).world ∧
      (reconcileZot readOnly).world.remote.creates = 1 ∧
      (reconcileZot writableAgain).world.remote.creates = 1 ∧
      ∃ direct, Attempt (fun _ => .epoch) .standard (projectNamed "zot") readOnly
          (.ok (.requeue Config.standard.pollInterval)) direct ∧
        direct.projects.objects = (reconcileZot writableAgain).world.projects.objects ∧
        direct.remote.calm = (reconcileZot writableAgain).world.remote.calm := by
  have hfirst := Attempt.of_run (fun _ => .epoch) .standard (projectNamed "zot") 1000 readOnly 0
  have hfails : FailedAttempt (fun _ => .epoch) .standard (projectNamed "zot") readOnly
      (reconcileZot readOnly).world := by
    refine ⟨.store (.refused ⟨"Failure", "read-only", "Forbidden", 403⟩), ?_⟩
    exact hfirst
  have hspares : SparesStores (reconcileZot readOnly).world writableAgain := rfl
  have hsecond : Attempt (fun _ => .epoch) .standard (projectNamed "zot")
      (reconcileZot readOnly).world (.ok (.requeue Config.standard.pollInterval))
      (reconcileZot writableAgain).world :=
    (Attempt.of_run (fun _ => .epoch) .standard (projectNamed "zot") 1000
      writableAgain 0).of_change hspares
  obtain ⟨⟨direct, hdirect⟩, hsame⟩ := (interrupted_provisioning_recovers (fun _ => .epoch)
    .standard (projectNamed "zot") readOnly).2 _ _ _ (.single hfails) hsecond
  exact ⟨hfails, by decide, by decide, direct, hdirect, (hsame _ _ hdirect).2⟩

end Lifecycle

end WorkspaceAccess
