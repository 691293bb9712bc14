import WorkspaceAccess.Proofs.Deployment.System
import WorkspaceAccess.Proofs.Index.Project
import WorkspaceAccess.Proofs.Workspace.Provisioning

/-!
# What Is Recorded of Projects Is True

Whatever says of a workspace that it is ready tells the truth, as a workspace that is ready stays
so: the annotations of a project, the news of it, what the index knows, and what a reconcile is
about to record. And the index has not missed anything: with the news that are still to come it
knows what is recorded.

A step changes at most one project, and posts that (`PostedWorld.Revises`). Steps that do so and
keep what the control plane has achieved (`PostedWorld.Advances`) keep the records true. So there
are two things to be shown of each step: which project it revises, if any, and that it takes back
nothing that was achieved. What follows from them is shown once (`Sound.advance`).

A reconcile holds what it has seen in its hand for a while before it records it. By then the
workspace may have changed, but not from being ready to something else; this is where the rules for
others come in, who may neither remove such a workspace nor take its mark away.

## Main results

* `Progresses.isReady`, `Progresses.of_keeps`: what the control plane has achieved is kept where
  workspaces and bindings stay.
* `readyWorkspace?_annotate`, `phase_of_recordedPhase`: a workspace that is recorded as ready is
  ready.
* `Leg.Move.progresses`, `Leg.Move.isTruthful`: a move keeps what was achieved, and what it is about
  to record is true.
* `Sound.advance`, `Sound.deliver`: the records stay true, and the index learns of each revision.
* `System.Sound.step`: a step keeps all records true, and what the control plane has achieved.
* `System.Reachable.sound`: in everything that comes about all records are true.
-/

namespace WorkspaceAccess

/-! ### The control plane -/

namespace InMemory

variable {old new : InMemory} {w : String}

/-- A workspace that is ready is still ready after whatever is achieved next. -/
theorem Progresses.isReady (h : old.Progresses new) (hready : old.IsReady w) : new.IsReady w := by
  obtain ⟨ws, hget, hphase⟩ := hready
  obtain ⟨later, hlater, hphase, -⟩ := h.ready hget hphase
  exact ⟨later, hlater, hphase⟩

/-- Where all workspaces stay as they are and all bindings stay, what was achieved is kept. -/
theorem Progresses.of_keeps (hkeeps : old.Keeps new) (hbound : old.KeepsBound new) :
    old.Progresses new :=
  ⟨fun hget hphase => ⟨_, hkeeps _ _ hget, hphase, rfl⟩, hbound⟩

/-- A control plane keeps what it has achieved when nothing happens to it. -/
theorem Progresses.refl (r : InMemory) : r.Progresses r :=
  .of_keeps (fun _ _ hget => hget) fun _ hbound => hbound

/-- One more workspace with a phase that can be read. -/
theorem Legible.insert {r later : InMemory} (h : r.Legible) {ws : WorkspaceInfo}
    (hws : Phase.ofText ws.phase.text = ws.phase)
    (hlater : later.workspaces = r.workspaces.insert w ws) : later.Legible := by
  intro k found hget
  rw [hlater, SortedMap.get?_insert] at hget
  split at hget
  · obtain rfl := Option.some.inj hget
    exact hws
  · exact h k found hget

/-- Where the workspaces are the same their phases can be read as before. -/
theorem Legible.of_same (h : old.Legible) (hsame : new.workspaces = old.workspaces) :
    new.Legible := by
  rw [Legible, hsame]
  exact h

end InMemory

/-! ### What a reconcile records -/

/-- A workspace that the project records as ready is ready. -/
def Project.IsTruthful (p : Project) (r : InMemory) : Prop :=
  ∀ w, p.readyWorkspace? = some w → r.IsReady w

/-- What a project records stays true, since a workspace that is ready stays ready. -/
theorem Project.IsTruthful.mono {p : Project} {old new : InMemory} (h : p.IsTruthful old)
    (hprogress : old.Progresses new) : p.IsTruthful new :=
  fun w hw => hprogress.isReady (h w hw)

/-- Only the annotations that describe the workspace say which ready workspace is recorded. -/
theorem Project.readyWorkspace?_of_keeps {old : Option Project} {new : Project}
    (h : Project.KeepsDescription old new) :
    new.readyWorkspace? = old.bind Project.readyWorkspace? := by
  have hphase := h Annotations.workspacePhase (by decide)
  have hname := h Annotations.workspaceName (by decide)
  rw [Project.readyWorkspace?, WorkspaceAccess.readyWorkspace?, hphase, hname]
  cases old with
  | none => rfl
  | some p => rfl

namespace Lifecycle

/-- A project on which a workspace was recorded records it as ready just when the phase that was
written is the ready one. -/
theorem readyWorkspace?_annotate {p : Project} {ws : WorkspaceInfo} {w : String} :
    (p.annotate (desiredAnnotations ws)).readyWorkspace? = some w ↔
      (recordedPhase ws).text = "Ready" ∧ ws.name = w := by
  have hannotations : (p.annotate (desiredAnnotations ws)).annotations =
      p.annotations.merge (desiredAnnotations ws) := rfl
  rw [Project.readyWorkspace?_eq_some_iff, hannotations, SortedMap.get?_merge,
    SortedMap.get?_merge, get?_desiredAnnotations_name, get?_desiredAnnotations_phase,
    Option.some_or, Option.some_or, Option.some.injEq, Option.some.injEq]

/-- A workspace that is recorded as ready is ready. -/
theorem phase_of_recordedPhase {ws : WorkspaceInfo}
    (hlegible : Phase.ofText ws.phase.text = ws.phase)
    (h : (recordedPhase ws).text = "Ready") : ws.phase = .ready := by
  rw [recordedPhase] at h
  split at h
  · exact absurd h (by decide)
  · rw [← hlegible, h]
    rfl

/-- A workspace that is to be recorded as ready is ready. -/
def Leg.IsTruthful (r : InMemory) : Leg Unit → Prop
  | recording ws => (recordedPhase ws).text = "Ready" → r.IsReady ws.name
  | fetching | connecting _ | looking .. | creating .. | ended _ => True

/-- What a reconcile is about to record stays true while it waits. -/
theorem Leg.IsTruthful.mono {leg : Leg Unit} {old new : InMemory} (h : leg.IsTruthful old)
    (hprogress : old.Progresses new) : leg.IsTruthful new := by
  cases leg with
  | recording ws => exact fun hready => hprogress.isReady (h hready)
  | fetching | connecting | looking | creating | ended => trivial

section

variable {wall : Instant → Timestamp} {config : Config} {id : ResourceId} {now : Instant}
  {world later : World} {leg next : Leg Unit} {deed : Deed Unit}

/-- A move of a lifecycle changes no binding; bindings are the business of sweeps. -/
theorem Leg.Move.bindings_eq
    (h : Leg.Move (World.host wall) config id now world leg deed next later) :
    later.remote.bindings = world.remote.bindings := by
  cases h with
  | fetch h | fetchNothing h | fetchFails h | connect h | connectFails h | look h | patch h =>
    obtain ⟨-, rfl⟩ := Prod.mk.inj h
    rfl
  | giveUp => rfl
  | create h =>
    obtain ⟨hcreate, -⟩ := World.create_of_answer h
    rcases world.remote.createWorkspace_cases (workspaceName id.name) id.name with
      ⟨e, hcases⟩ | ⟨found, -, hcases⟩ | ⟨-, hcases⟩
    · exact congrArg (·.2.bindings) (hcreate.symm.trans hcases)
    · exact congrArg (·.2.bindings) (hcreate.symm.trans hcases)
    · exact congrArg (·.2.bindings) (hcreate.symm.trans hcases)

/-- A move keeps what was achieved: a workspace that is ready stays so. -/
theorem Leg.Move.progresses
    (h : Leg.Move (World.host wall) config id now world leg deed next later) :
    world.remote.Progresses later.remote := by
  refine .of_keeps h.keeps fun w hbound => ?_
  rw [InMemory.IsBound, h.bindings_eq]
  exact hbound

/-- A workspace that a move adds has a phase that can be read. -/
theorem Leg.Move.legible (hlegible : world.remote.Legible)
    (h : Leg.Move (World.host wall) config id now world leg deed next later) :
    later.remote.Legible := by
  rcases h.remote_cases with hsame | ⟨-, -, hadded, -⟩
  · rw [hsame]
    exact hlegible
  · exact hlegible.insert rfl hadded

/-- What a move is about to record is true. -/
theorem Leg.Move.isTruthful (hnamed : world.remote.WellNamed) (hlegible : world.remote.Legible)
    (h : Leg.Move (World.host wall) config id now world leg deed next later) :
    next.IsTruthful later.remote := by
  cases next with
  | recording ws =>
    intro hready
    obtain ⟨hget, -⟩ := h.serves hnamed
    exact ⟨ws, hget, phase_of_recordedPhase (h.legible hlegible _ _ hget) hready⟩
  | fetching | connecting | looking | creating | ended => trivial

end

end Lifecycle

/-! ### What becomes of the projects -/

/-- A patch fails, or it finds the project gone or makes it disappear, or it annotates it. -/
theorem Store.patch_cases {α : Type} (annotate : α → Annotations → α) (s : Store α)
    (id : ResourceId) (annotations : Annotations) :
    (∃ e, s.patch annotate id annotations = (.error e, s)) ∨
      (∃ later, s.patch annotate id annotations = (.ok false, later) ∧
        ∀ j, later.objects.get? j =
          if KeyOrder.compare j id = .eq then none else s.objects.get? j) ∨
      (∃ old later, s.objects.get? id = some old ∧
        s.patch annotate id annotations = (.ok true, later) ∧
        ∀ j, later.objects.get? j =
          if KeyOrder.compare j id = .eq then some (annotate old annotations)
          else s.objects.get? j) := by
  rw [patch]
  split
  · exact .inl ⟨_, rfl⟩
  split
  · exact .inr (.inl ⟨_, rfl, SortedMap.get?_erase s.objects id⟩)
  split
  · rename_i hnone
    refine .inr (.inl ⟨s, rfl, fun j => ?_⟩)
    split
    · rename_i hj
      rw [KeyOrder.compare_eq_iff.mp hj, hnone]
    · rfl
  · rename_i old hold
    exact .inr (.inr ⟨old, _, hold, rfl,
      fun j => SortedMap.get?_insert s.objects id j (annotate old annotations)⟩)

namespace PostedWorld

/-- What becomes of the projects, and what is posted of it. -/
inductive Revises (old new : PostedWorld) : Prop
  /-- No project is different, and there are no further news. -/
  | nothing (hobjects : ∀ j, new.world.projects.objects.get? j = old.world.projects.objects.get? j)
      (hnews : new.news = old.news)
  /-- A project is added or changed, and what it records is true. -/
  | put {id : ResourceId} {project : Project} (hid : project.metadata.identify .project = .ok id)
      (htrue : project.IsTruthful new.world.remote)
      (hobjects : ∀ j, new.world.projects.objects.get? j =
        if KeyOrder.compare j id = .eq then some project
        else old.world.projects.objects.get? j)
      (hnews : new.news = old.news ++ [.applied project])
  /-- A project is removed, and all others are as they were. -/
  | remove {id : ResourceId}
      (hobjects : ∀ j, new.world.projects.objects.get? j =
        if KeyOrder.compare j id = .eq then none else old.world.projects.objects.get? j)
      (hnews : new.news = old.news ++ [.deleted id])

/-- Projects are revised, and what the control plane has achieved is kept. -/
structure Advances (old new : PostedWorld) : Prop where
  /-- Ready workspaces stay ready, and bindings stay. -/
  progress : old.world.remote.Progresses new.world.remote
  /-- The workspaces are kept under their own names. -/
  named : new.world.remote.WellNamed
  /-- The phases of all workspaces can be read. -/
  legible : new.world.remote.Legible
  /-- At most one project is changed, added or removed. -/
  revises : old.Revises new

/-- The records are true, and the index has not missed anything. -/
structure Sound (w : PostedWorld) (ready : ReadyProjects) : Prop where
  /-- The workspaces are kept under their own names. -/
  named : w.world.remote.WellNamed
  /-- The phases of all workspaces can be read. -/
  legible : w.world.remote.Legible
  /-- A project is kept under its name, and what it records is true. -/
  stored {id : ResourceId} {p : Project} : w.world.projects.objects.get? id = some p →
    p.metadata.identify .project = .ok id ∧ p.IsTruthful w.world.remote
  /-- A project in the news can be identified, and what it records is true. -/
  posted {p : Project} : .applied p ∈ w.news →
    (∃ id, p.metadata.identify .project = .ok id) ∧ p.IsTruthful w.world.remote
  /-- A workspace that the index knows to be ready is ready. -/
  known {id : ResourceId} {k : String} : ready.get? id = some k → w.world.remote.IsReady k
  /-- After the news the index knows what the projects record. -/
  replay (id : ResourceId) : (w.news.foldl ProjectIndex.note ready).get? id =
    (w.world.projects.objects.get? id).bind Project.readyWorkspace?

variable {old new : PostedWorld} {ready : ReadyProjects}

/-- Where nothing happens nothing is revised and nothing is lost. -/
theorem Advances.refl {w : PostedWorld} (h : w.Sound ready) : w.Advances w :=
  ⟨.refl _, h.named, h.legible, .nothing (fun _ => rfl) rfl⟩

/-- Whatever becomes of the projects, the records stay true and the index learns of it. -/
theorem Sound.advance (h : old.Sound ready) (hadvances : old.Advances new) : new.Sound ready := by
  obtain ⟨hprogress, hnamed, hlegible, hrevises⟩ := hadvances
  have hknown : ∀ {id k}, ready.get? id = some k → new.world.remote.IsReady k :=
    fun hget => hprogress.isReady (h.known hget)
  cases hrevises with
  | nothing hobjects hnews =>
    refine ⟨hnamed, hlegible, ?_, ?_, hknown, ?_⟩
    · intro id p hget
      rw [hobjects] at hget
      exact (h.stored hget).imp_right fun htrue => htrue.mono hprogress
    · intro p hp
      rw [hnews] at hp
      exact (h.posted hp).imp_right fun htrue => htrue.mono hprogress
    · intro id
      rw [hnews, hobjects]
      exact h.replay id
  | @put id project hid htrue hobjects hnews =>
    refine ⟨hnamed, hlegible, ?_, ?_, hknown, ?_⟩
    · intro j p hget
      rw [hobjects] at hget
      split at hget
      · rename_i hj
        obtain rfl := Option.some.inj hget
        rw [KeyOrder.compare_eq_iff.mp hj]
        exact ⟨hid, htrue⟩
      · exact (h.stored hget).imp_right fun htrue => htrue.mono hprogress
    · intro p hp
      rw [hnews, List.mem_append, List.mem_singleton] at hp
      rcases hp with hp | hp
      · exact (h.posted hp).imp_right fun htrue => htrue.mono hprogress
      · obtain rfl := WatchEvent.applied.inj hp
        exact ⟨⟨id, hid⟩, htrue⟩
    · intro j
      rw [hnews, List.foldl_append, List.foldl_cons, List.foldl_nil, ProjectIndex.note_applied hid,
        ReadyProjects.get?_apply, hobjects]
      split
      · rfl
      · exact h.replay j
  | @remove id hobjects hnews =>
    refine ⟨hnamed, hlegible, ?_, ?_, hknown, ?_⟩
    · intro j p hget
      rw [hobjects] at hget
      split at hget
      · cases hget
      · exact (h.stored hget).imp_right fun htrue => htrue.mono hprogress
    · intro p hp
      rw [hnews, List.mem_append, List.mem_singleton] at hp
      rcases hp with hp | hp
      · exact (h.posted hp).imp_right fun htrue => htrue.mono hprogress
      · cases hp
    · intro j
      rw [hnews, List.foldl_append, List.foldl_cons, List.foldl_nil, ProjectIndex.note_deleted,
        SortedMap.get?_erase, hobjects]
      split
      · rfl
      · exact h.replay j

/-- The index handles the oldest of the news, and the records are true with what it knows then. -/
theorem Sound.deliver {w : PostedWorld} {event : WatchEvent Project}
    {news : List (WatchEvent Project)} (h : w.Sound ready) (hnews : w.news = event :: news) :
    ∃ later demand, ProjectIndex.handle ready event = .ok (later, demand) ∧
      Sound { w with news } later := by
  obtain ⟨⟨later, demand⟩, hhandle⟩ : ∃ handled, ProjectIndex.handle ready event = .ok handled := by
    cases event with
    | deleted id => exact ⟨_, rfl⟩
    | applied p =>
      obtain ⟨⟨id, hid⟩, -⟩ := h.posted (hnews ▸ List.mem_cons_self)
      exact ⟨_, ProjectIndex.handle_applied hid ready⟩
  have hnote : ProjectIndex.note ready event = later := by
    rw [ProjectIndex.note, hhandle]
  refine ⟨later, demand, hhandle, h.named, h.legible, h.stored, ?_, ?_, ?_⟩
  · intro p hp
    exact h.posted (hnews ▸ List.mem_cons_of_mem event hp)
  · intro id k hget
    rcases ProjectIndex.asks_of_handle hhandle hget with hold | ⟨⟨p, rfl, hp⟩, -⟩
    · exact h.known hold
    · obtain ⟨-, htrue⟩ := h.posted (hnews ▸ List.mem_cons_self)
      exact htrue k hp
  · intro id
    rw [← hnote, ← h.replay id, hnews]
    rfl

/-! ### What the turns of reconciles do -/

section

variable {wall : Instant → Timestamp} {now : Instant} {deed : Deed Unit}

/-- A move of a reconcile of a project records what is true, on at most one project. -/
theorem Sound.advances_of_lifecycle {config : Lifecycle.Config} {id : ResourceId}
    {leg next : Lifecycle.Leg Unit} (h : old.Sound ready)
    (htrue : leg.IsTruthful old.world.remote)
    (hmove : Lifecycle.Leg.Move (host wall) config id now old leg deed next new) :
    old.Advances new := by
  have hview := hmove.view (views wall)
  have hprogress := hview.progresses
  refine ⟨hprogress, hview.wellNamed h.named, hview.legible h.legible, ?_⟩
  cases hmove with
  | fetch h | fetchNothing h | fetchFails h | connect h | connectFails h | look h =>
    obtain ⟨-, rfl⟩ := Prod.mk.inj h
    exact .nothing (fun _ => rfl) (List.append_nil _)
  | giveUp => exact .nothing (fun _ => rfl) rfl
  | create h =>
    have hprojects := (World.create_of_answer ((views wall).answer h)).2
    obtain ⟨-, rfl⟩ := Prod.mk.inj h
    exact .nothing (fun j => by rw [hprojects]) (List.append_nil _)
  | @patch ws _ _ hpatch =>
    rcases old.world.projects.patch_cases Project.annotate id (Lifecycle.desiredAnnotations ws) with
      ⟨e, hcases⟩ | ⟨later, hcases, hobjects⟩ | ⟨project, later, hstored, hcases, hobjects⟩
    · simp only [host, answer, World.answer, hcases] at hpatch
      cases hpatch
      exact .nothing (fun _ => rfl) (List.append_nil _)
    · simp only [host, answer, World.answer, hcases] at hpatch
      cases hpatch
      by_cases hthere : old.world.projects.objects.contains id
      · exact .remove hobjects (congrArg (old.news ++ ·) (if_pos hthere))
      · refine .nothing (fun j => ?_)
          ((congrArg (old.news ++ ·) (if_neg hthere)).trans (List.append_nil _))
        rw [hobjects]
        split
        · rename_i hj
          rw [KeyOrder.compare_eq_iff.mp hj]
          exact (Option.not_isSome_iff_eq_none.mp hthere).symm
        · rfl
    · simp only [host, answer, World.answer, hcases] at hpatch
      cases hpatch
      obtain ⟨hid, -⟩ := h.stored hstored
      have hannotated : (project.annotate (Lifecycle.desiredAnnotations ws)).metadata.identify
          .project = .ok id := hid
      refine .put hannotated ?_ hobjects ?_
      · intro w hw
        obtain ⟨hready, rfl⟩ := Lifecycle.readyWorkspace?_annotate.mp hw
        exact hprogress.isReady (htrue hready)
      · have hself := hobjects id
        rw [if_pos (KeyOrder.compare_self id)] at hself
        simp only [posts, newsOf, hself]
        rfl

/-- A move of a sweep leaves the projects alone. -/
theorem Sound.advances_of_sweep {trigger : Trigger} {deadline : Instant} {leg next : Sweep.Leg Unit}
    (h : old.Sound ready)
    (hmove : Sweep.Leg.Move (host wall) trigger deadline now old leg deed next new) :
    old.Advances new := by
  have hview := hmove.view (views wall)
  have hworkspaces := hview.spares.workspaces
  refine ⟨.of_keeps (.of_same hworkspaces) hview.keepsBound, h.named.of_same hworkspaces,
    h.legible.of_same hworkspaces, ?_⟩
  cases hmove with
  | connect h | connectFails h | list h | listFails h | read h | readFails h | write h
  | writeFails h | record h | recordFails h =>
    obtain ⟨-, rfl⟩ := Prod.mk.inj h
    exact .nothing (fun _ => rfl) (List.append_nil _)
  | giveUpConnect | giveUpList | giveUpRead | abandon | choose | giveUpWrite | report | time =>
    exact .nothing (fun _ => rfl) rfl

/-- A change from outside leaves the descriptions of workspaces alone. -/
theorem Sound.advances_of_change (h : old.Sound ready) (hchange : old.Change new) :
    old.Advances new := by
  cases hchange with
  | elsewhere hobjects hprogress hnamed hlegible =>
    exact ⟨hprogress, hnamed, hlegible, .nothing (fun j => by rw [hobjects]) rfl⟩
  | @put id project hid hkeeps =>
    refine ⟨.refl _, h.named, h.legible, .put hid ?_ (fun j => ?_) rfl⟩
    · intro w hw
      rw [Project.readyWorkspace?_of_keeps hkeeps] at hw
      obtain ⟨p, hstored, hp⟩ := Option.bind_eq_some_iff.mp hw
      obtain ⟨-, htrue⟩ := h.stored hstored
      exact htrue w hp
    · exact SortedMap.get?_insert old.world.projects.objects id j project
  | remove id =>
    refine ⟨.refl _, h.named, h.legible, .remove (fun j => ?_) rfl⟩
    exact SortedMap.get?_erase old.world.projects.objects id j

end

end PostedWorld

/-! ### The whole system -/

namespace System

variable {config : DeploymentConfig} {wall : Instant → Timestamp} {s t : System}

/-- The reconcile of a project is at a leg, and what it is about to record is true. -/
def IsTruthful (config : DeploymentConfig) (r : InMemory) (id : ResourceId)
    (a : Activity Unit (Except Lifecycle.Failure Action)) : Prop :=
  ∃ deadline leg, a = Lifecycle.Leg.rest config.lifecycle id deadline leg ∧ leg.IsTruthful r

/-- The reconcile of a trigger is at a leg of a sweep. -/
def IsSweep (trigger : Trigger) (a : Activity Unit (Except Sweep.Failure Action)) : Prop :=
  ∃ deadline leg, a = Sweep.Leg.rest trigger deadline leg

/-- All that is recorded in the system is true, and its reconciles are on their ways. -/
structure Sound (config : DeploymentConfig) (s : System) : Prop where
  /-- The projects, the news of them and the index tell the truth. -/
  posted : s.posted.Sound s.ready
  /-- The reconciles of projects record what is true. -/
  lifecycle : s.lifecycle.Each (IsTruthful config s.posted.world.remote)
  /-- The other reconciles are sweeps, each with what is left of it. -/
  sweeps : s.sweeps.Each IsSweep

/-- What a reconcile of the system is about to record stays true while others go on. -/
theorem IsTruthful.mono {old new : InMemory} {id : ResourceId}
    {a : Activity Unit (Except Lifecycle.Failure Action)} (h : IsTruthful config old id a)
    (hprogress : old.Progresses new) : IsTruthful config new id a := by
  obtain ⟨deadline, leg, ha, htrue⟩ := h
  exact ⟨deadline, leg, ha, htrue.mono hprogress⟩

/-- A step of the lifecycle controller or of one of its reconciles. -/
theorem Sound.step_lifecycle {team : Team ResourceId Lifecycle.Failure} {posted : PostedWorld}
    (h : s.Sound config)
    (hstep : Team.Step config.lifecycleJob (PostedWorld.host wall) s.lifecycle s.posted team
      posted) :
    s.posted.Advances posted ∧ team.Each (IsTruthful config posted.world.remote) := by
  have hadvances : s.posted.Advances posted := by
    rcases hstep.world_cases with rfl | ⟨id, a, b, deed, inTime, htask, hturn⟩
    · exact .refl h.posted
    · obtain ⟨deadline, leg, rfl, htrue⟩ := h.lifecycle id a htask
      obtain ⟨next, -, hmove⟩ := Lifecycle.Leg.move_of_turn hturn
      exact h.posted.advances_of_lifecycle htrue hmove
  refine ⟨hadvances, hstep.each h.lifecycle ?_ ?_ ?_⟩
  · exact fun id deadline => ⟨deadline, .fetching, rfl, trivial⟩
  · exact fun id a htrue => htrue.mono hadvances.progress
  · rintro id a b deed inTime ⟨deadline, leg, rfl, -⟩ hturn
    obtain ⟨next, rfl, hmove⟩ := Lifecycle.Leg.move_of_turn hturn
    have hview := hmove.view (PostedWorld.views wall)
    exact ⟨deadline, next, rfl, hview.isTruthful h.posted.named h.posted.legible⟩

/-- A step of the controller of the sweeps or of one of its reconciles. -/
theorem Sound.step_sweeps {team : Team Trigger Sweep.Failure} {posted : PostedWorld}
    (h : s.Sound config)
    (hstep : Team.Step config.sweepJob (PostedWorld.host wall) s.sweeps s.posted team posted) :
    s.posted.Advances posted ∧ team.Each IsSweep := by
  have hadvances : s.posted.Advances posted := by
    rcases hstep.world_cases with rfl | ⟨trigger, a, b, deed, inTime, htask, hturn⟩
    · exact .refl h.posted
    · obtain ⟨deadline, leg, rfl⟩ := h.sweeps trigger a htask
      obtain ⟨next, -, hmove⟩ := Sweep.Leg.move_of_turn hturn
      exact h.posted.advances_of_sweep hmove
  refine ⟨hadvances, hstep.each h.sweeps ?_ ?_ ?_⟩
  · exact fun trigger deadline => ⟨deadline, .connecting, rfl⟩
  · exact fun trigger a hsweep => hsweep
  · rintro trigger a b deed inTime ⟨deadline, leg, rfl⟩ hturn
    obtain ⟨next, rfl, -⟩ := Sweep.Leg.move_of_turn hturn
    exact ⟨deadline, next, rfl⟩

/-- A step keeps all records true, and what the control plane has achieved. -/
theorem Sound.step (h : s.Sound config) (hstep : Step config wall s t) :
    t.Sound config ∧ s.posted.world.remote.Progresses t.posted.world.remote := by
  cases hstep with
  | lifecycle hteam =>
    obtain ⟨hadvances, heach⟩ := h.step_lifecycle hteam
    exact ⟨⟨h.posted.advance hadvances, heach, h.sweeps⟩, hadvances.progress⟩
  | sweeps hteam =>
    obtain ⟨hadvances, heach⟩ := h.step_sweeps hteam
    refine ⟨⟨h.posted.advance hadvances, ?_, heach⟩, hadvances.progress⟩
    exact h.lifecycle.imp fun id a htrue => htrue.mono hadvances.progress
  | change hchange =>
    have hadvances := h.posted.advances_of_change hchange
    refine ⟨⟨h.posted.advance hadvances, ?_, h.sweeps⟩, hadvances.progress⟩
    exact h.lifecycle.imp fun id a htrue => htrue.mono hadvances.progress
  | wait => exact ⟨⟨h.posted, h.lifecycle, h.sweeps⟩, .refl _⟩
  | deliver =>
    rw [deliver]
    split
    · exact ⟨h, .refl _⟩
    rename_i event news hnews
    obtain ⟨later, demand, hhandle, hsound⟩ := h.posted.deliver hnews
    rw [hhandle]
    exact ⟨⟨hsound, h.lifecycle.enqueueAll demand.lifecycle, h.sweeps.enqueueAll demand.sweeps⟩,
      .refl _⟩

/-- In everything that comes about all records are true. -/
theorem Reachable.sound (h : Reachable config wall s) : s.Sound config := by
  induction h with
  | initial now hempty hnamed hlegible =>
    refine ⟨⟨hnamed, hlegible, ?_, nofun, nofun, ?_⟩, nofun, nofun⟩
    · intro id p hget
      rw [System.initial, hempty] at hget
      cases hget
    · intro id
      rw [System.initial, hempty]
      rfl
  | next _ hstep ih => exact (ih.step hstep).1

end System

end WorkspaceAccess
