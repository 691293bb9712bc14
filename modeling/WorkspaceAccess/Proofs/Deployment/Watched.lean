import WorkspaceAccess.Proofs.Deployment.Records

/-!
# A World in Which the Index Hears of Everything at Once

In a watched world the index handles what happens to a project at the moment at which it happens,
and what it asks for is kept. In a posted world what happens to a project is kept, and is handled
later. A watched world is ahead of a posted one: its index already knows what the news will tell,
and what is kept is what will then be asked for (`WatchedWorld.IsAhead`).

Objects must not disappear at the moment at which they are patched, as the index of a watched world
does not hear of that. A simulation has no such objects, so that nothing is lost by it.

What is kept is a list of notices: news of projects, which will ask for something when they are
delivered, and triggers of the staff index, which ask for a sweep at once. Their order matters,
since the controllers take keys in the order in which they are enqueued. `Ask` follows the notices
in order, with what the index knows at each point and the demand so far, and the invariant says that
the demand that was kept is the one that `Ask` arrives at.

## Main results

* `Ask.concat`, `Ask.triggers`: one more notice, or some more triggers.
* `Store.patch_of_present`: where objects do not disappear, a patch fails, or it finds the object
  gone, or it annotates it.
* `IsAhead.applied`, `IsAhead.deleted`: a project that is changed or removed is heard of.
* `WatchedWorld.shadows`: whatever a call does in a watched world it does in the other one.
* `IsAhead.edit`: so does what others change.
-/

namespace WorkspaceAccess

/-! ### What the controllers are to be told -/

/-- Both demands together, one after the other, for each of the controllers. -/
def ProjectDemand.and (d e : ProjectDemand) : ProjectDemand :=
  ⟨d.lifecycle ++ e.lifecycle, d.sweeps ++ e.sweeps⟩

/-- What the controllers are to be told. -/
inductive Notice where
  /-- Something happened to a project, as its index is told. -/
  | project (event : WatchEvent Project)
  /-- A sweep is to be made because of the staff. -/
  | staff (trigger : Trigger)

namespace Notice

/-- What happened to a project, if the notice is about one. -/
def event? : Notice → Option (WatchEvent Project)
  | project event => some event
  | staff _ => none

/-- What a notice asks for, and what the index knows then. -/
inductive Asks (ready : ReadyProjects) : Notice → ReadyProjects → ProjectDemand → Prop
  /-- The index handles an event and asks for what it demands. -/
  | project {event : WatchEvent Project} {later : ReadyProjects} {d : ProjectDemand}
      (h : ProjectIndex.handle ready event = .ok (later, d)) : Asks ready (.project event) later d
  /-- A trigger asks for itself, and leaves the index of projects alone. -/
  | staff (trigger : Trigger) : Asks ready (.staff trigger) ready ⟨[], [trigger]⟩

/-- What some notices ask for in order, and what the index knows then. -/
inductive Ask : ReadyProjects → List Notice → ReadyProjects → ProjectDemand → Prop
  /-- Nothing was noticed, and nothing is asked for. -/
  | nil (ready : ReadyProjects) : Ask ready [] ready ⟨[], []⟩
  /-- A first one is noticed and then more, and they ask for all that each asks for. -/
  | cons {ready between later : ReadyProjects} {first : Notice} {rest : List Notice}
      {d e : ProjectDemand} (hfirst : first.Asks ready between d)
      (hrest : Ask between rest later e) : Ask ready (first :: rest) later (d.and e)

/-- One more notice, with what the index asks for when it hears of it. -/
theorem Ask.concat {ready later last : ReadyProjects} {notices : List Notice} {notice : Notice}
    {d e : ProjectDemand} (h : Ask ready notices later d) (hlast : notice.Asks later last e) :
    Ask ready (notices ++ [notice]) last (d.and e) := by
  induction h with
  | nil =>
    have hone := (Ask.nil last).cons hlast
    simpa [ProjectDemand.and] using hone
  | cons hfirst _ ih =>
    have hmore := (ih hlast).cons hfirst
    simpa [ProjectDemand.and] using hmore

/-- Some triggers more, which the index of the projects does not hear of. -/
theorem Ask.triggers {ready later : ReadyProjects} {notices : List Notice} {d : ProjectDemand}
    (h : Ask ready notices later d) (triggers : List Trigger) :
    Ask ready (notices ++ triggers.map .staff) later (d.and ⟨[], triggers⟩) := by
  induction triggers generalizing notices d with
  | nil => simpa [ProjectDemand.and] using h
  | cons k rest ih =>
    have hmore := ih (h.concat (.staff k))
    simpa [ProjectDemand.and] using hmore

/-- Triggers are no news of projects, so they add none. -/
theorem filterMap_event?_staff (triggers : List Trigger) :
    (triggers.map staff).filterMap event? = [] := by
  induction triggers with
  | nil => rfl
  | cons k rest ih => exact ih

end Notice

/-! ### A world in which the index hears of everything at once -/

/-- Where objects do not disappear, a patch fails, or it finds the object gone, or it annotates
it. -/
theorem Store.patch_of_present {α : Type} (annotate : α → Annotations → α) {s : Store α}
    (hpresent : s.vanishing = false) (id : ResourceId) (annotations : Annotations) :
    (∃ e, s.patch annotate id annotations = (.error e, s)) ∨
      (s.objects.get? id = none ∧ s.patch annotate id annotations = (.ok false, s)) ∨
      ∃ old, s.objects.get? id = some old ∧ s.patch annotate id annotations = (.ok true, { s with
        objects := s.objects.insert id (annotate old annotations)
        patches := s.patches ++ [(id, annotations)] }) := by
  rw [patch]
  split
  · exact .inl ⟨_, rfl⟩
  rw [hpresent]
  cases hget : s.objects.get? id with
  | none => exact .inr (.inl ⟨rfl, rfl⟩)
  | some old => exact .inr (.inr ⟨old, rfl, rfl⟩)

namespace WatchedWorld

/-- A watched world has heard of what is still to be delivered in the other world. -/
structure IsAhead (ready : ReadyProjects) (w : WatchedWorld) (p : PostedWorld) : Prop where
  /-- The outside world is the same. -/
  world : w.world = p.world
  /-- What is news there was heard here, and asked for what it demands. -/
  heard : ∃ notices, p.news = notices.filterMap Notice.event? ∧
    Notice.Ask ready notices w.ready w.demand
  /-- Projects are kept under their own names. -/
  named {id : ResourceId} {project : Project} :
    w.world.projects.objects.get? id = some project →
    project.metadata.identify .project = .ok id
  /-- Projects do not disappear when they are patched. -/
  present : w.world.projects.vanishing = false

namespace IsAhead

variable {ready : ReadyProjects} {w : WatchedWorld} {p posted : PostedWorld} {world : World}
  {id : ResourceId}

/-- Where the projects stay as they are there is nothing to be heard of them. -/
theorem of_same (h : w.IsAhead ready p) (hworld : world = posted.world)
    (hnews : posted.news = p.news) (hobjects : world.projects.objects = w.world.projects.objects)
    (hpresent : world.projects.vanishing = false) : IsAhead ready { w with world } posted := by
  obtain ⟨notices, hnotices, hask⟩ := h.heard
  refine ⟨hworld, ⟨notices, hnews.trans hnotices, hask⟩, ?_, hpresent⟩
  intro j project hget
  rw [hobjects] at hget
  exact h.named hget

/-- The staff index asks for sweeps without any news of projects. -/
theorem told (h : w.IsAhead ready p) (staff : StaffIndex) (triggers : List Trigger) :
    IsAhead ready ({ w with staff }.ask ⟨[], triggers⟩) p := by
  obtain ⟨notices, hnotices, hask⟩ := h.heard
  refine ⟨h.world, ⟨_, ?_, hask.triggers triggers⟩, h.named, h.present⟩
  rw [List.filterMap_append, Notice.filterMap_event?_staff, List.append_nil, hnotices]

/-- A project that is added or changed is heard of. -/
theorem applied (h : w.IsAhead ready p) {project : Project} (hworld : world = posted.world)
    (hnews : posted.news = p.news ++ [.applied project])
    (hid : project.metadata.identify .project = .ok id)
    (hobjects : world.projects.objects = w.world.projects.objects.insert id project)
    (hpresent : world.projects.vanishing = false) :
    IsAhead ready (projectApplied { w with world } id project) posted := by
  obtain ⟨notices, hnotices, hask⟩ := h.heard
  refine ⟨hworld, ⟨notices ++ [.project (.applied project)], ?_, ?_⟩, ?_, hpresent⟩
  · rw [hnews, hnotices, List.filterMap_append]
    rfl
  · exact hask.concat (.project (ProjectIndex.handle_applied hid w.ready))
  · intro j found hget
    have hget : world.projects.objects.get? j = some found := hget
    rw [hobjects, SortedMap.get?_insert] at hget
    split at hget
    · rename_i hj
      obtain rfl := Option.some.inj hget
      rw [KeyOrder.compare_eq_iff.mp hj]
      exact hid
    · exact h.named hget

/-- A project that is removed is heard of, with its removal as the last of the news. -/
theorem deleted (h : w.IsAhead ready p) (hworld : world = posted.world)
    (hnews : posted.news = p.news ++ [.deleted id])
    (hobjects : world.projects.objects = w.world.projects.objects.erase id)
    (hpresent : world.projects.vanishing = false) :
    IsAhead ready (projectDeleted { w with world } id) posted := by
  obtain ⟨notices, hnotices, hask⟩ := h.heard
  refine ⟨hworld, ⟨notices ++ [.project (.deleted id)], ?_, ?_⟩, ?_, hpresent⟩
  · rw [hnews, hnotices, List.filterMap_append]
    rfl
  · exact hask.concat (.project rfl)
  · intro j found hget
    have hget : world.projects.objects.get? j = some found := hget
    rw [hobjects, SortedMap.get?_erase] at hget
    split at hget
    · cases hget
    · exact h.named hget

end IsAhead

/-- Whatever a call does in a watched world it does in the other one. -/
theorem shadows (wall : Instant → Timestamp) (ready : ReadyProjects) :
    (host wall).Shadows (PostedWorld.host wall) (IsAhead ready) where
  answer {call clock answer w later p} h hanswer := by
    obtain ⟨rfl, rfl⟩ := Prod.mk.inj hanswer
    refine ⟨(PostedWorld.answer call clock p).2, Prod.ext ?_ rfl, ?_⟩
    · show (World.answer call clock p.world).1 = (World.answer call clock w.world).1
      rw [h.world]
    show IsAhead ready (WatchedWorld.answer call clock w).2 _
    cases call with
    | connect | getWorkspace | listWorkspaces | getProject | listStaff =>
      exact h.of_same h.world (List.append_nil _) rfl h.present
    | createWorkspace | writeBinding =>
      exact h.of_same (by rw [h.world]; rfl) (List.append_nil _) rfl h.present
    | patchProject id annotations =>
      rcases p with ⟨world, news⟩
      obtain rfl : w.world = world := h.world
      rcases Store.patch_of_present Project.annotate h.present id annotations with
        ⟨e, hpatch⟩ | ⟨hgone, hpatch⟩ | ⟨old, hold, hpatch⟩
      · simp only [WatchedWorld.answer, PostedWorld.answer, World.answer, hpatch]
        exact h.of_same rfl (List.append_nil _) rfl h.present
      · simp only [WatchedWorld.answer, PostedWorld.answer, World.answer, hpatch]
        refine h.of_same rfl ?_ rfl h.present
        simp [PostedWorld.posts, PostedWorld.newsOf, SortedMap.contains, hgone]
      · have hid : old.metadata.identify .project = .ok id := h.named hold
        have hself := SortedMap.get?_insert_self w.world.projects.objects id
          (old.annotate annotations)
        simp only [WatchedWorld.answer, PostedWorld.answer, World.answer, hpatch, isPatch, if_true,
          notice, hself, Option.elim_some]
        refine h.applied rfl ?_ hid rfl h.present
        simp [PostedWorld.posts, PostedWorld.newsOf, hself]
    | patchStaff id annotations =>
      rcases p with ⟨world, news⟩
      obtain rfl : w.world = world := h.world
      have hstaff : IsAhead ready { w with world := (World.answer (.patchStaff id annotations) clock
          w.world).2 } (PostedWorld.answer (.patchStaff id annotations) clock ⟨w.world, news⟩).2 :=
        h.of_same rfl (List.append_nil _) rfl h.present
      rw [WatchedWorld.answer]
      simp only
      split
      · rw [notice]
        cases (World.answer (.patchStaff id annotations) clock w.world).2.staff.objects.get? id with
        | none => exact hstaff
        | some member => exact hstaff.told _ _
      · exact hstaff
  report {w p} counts h :=
    h.of_same (by rw [h.world]; rfl) rfl rfl h.present
  wall := rfl

end WatchedWorld

/-! ### Changes from outside -/

namespace Project

/-- Annotations that do not describe a workspace leave the description as it was. -/
theorem keepsDescription_edit {annotations : Annotations}
    (hkeys : ∀ k ∈ Annotations.workspaceKeys, annotations.get? k = none)
    (existing : Option Project) (id : ResourceId) :
    KeepsDescription existing (edit existing id annotations) := by
  intro k hk
  show ((existing.getD _).annotations.merge annotations).get? k = _
  rw [SortedMap.get?_merge, hkeys k hk, Option.none_or]
  cases existing with
  | none => rfl
  | some project => rfl

/-- An edited project has the name of the one that was there, or the one that it was given. -/
theorem identify_edit {existing : Option Project} {id : ResourceId}
    (h : ∀ project, existing = some project → project.metadata.identify .project = .ok id)
    (annotations : Annotations) :
    (edit existing id annotations).metadata.identify .project = .ok id := by
  cases existing with
  | none => rfl
  | some project => exact h project rfl

end Project

namespace WatchedWorld

/-- What others may change in a watched world. -/
inductive Edit (w : WatchedWorld) : WatchedWorld → Prop
  /-- Anything is changed but the projects, and the indexes hear nothing. -/
  | elsewhere {world : World} (hobjects : world.projects.objects = w.world.projects.objects)
      (hpresent : world.projects.vanishing = false)
      (hprogress : w.world.remote.Progresses world.remote) (hnamed : world.remote.WellNamed)
      (hlegible : world.remote.Legible) : Edit w { w with world }
  /-- A project is added or annotated, but not with the description of a workspace. -/
  | putProject (id : ResourceId) {annotations : Annotations}
      (hkeys : ∀ k ∈ Annotations.workspaceKeys, annotations.get? k = none) :
      Edit w (w.putProject id annotations)
  /-- A project is removed, if there is one of that name. -/
  | removeProject (id : ResourceId) : Edit w (w.removeProject id)
  /-- A member is added or changed, with an email and annotations. -/
  | putStaff (id : ResourceId) (email : String) (annotations : Annotations) :
      Edit w (w.putStaff id email annotations)
  /-- A member is removed, if there is one of that name. -/
  | removeStaff (id : ResourceId) : Edit w (w.removeStaff id)

/-- What others change in a watched world they may change in the other one. -/
theorem IsAhead.edit {ready : ReadyProjects} {w later : WatchedWorld} {p : PostedWorld}
    (h : w.IsAhead ready p) (hnamed : p.world.remote.WellNamed)
    (hlegible : p.world.remote.Legible) (hedit : w.Edit later) :
    ∃ posted, p.Change posted ∧ later.IsAhead ready posted := by
  rcases p with ⟨world, news⟩
  obtain rfl : w.world = world := h.world
  have hstaff : ∀ staff : Store StaffMember,
      PostedWorld.Change ⟨w.world, news⟩ ⟨{ w.world with staff }, news⟩ ∧
        IsAhead ready { w with world := { w.world with staff } }
          ⟨{ w.world with staff }, news⟩ := fun staff =>
    ⟨.elsewhere rfl (.refl _) hnamed hlegible, h.of_same rfl rfl rfl h.present⟩
  cases hedit with
  | elsewhere hobjects hpresent hprogress hnamed hlegible =>
    exact ⟨_, .elsewhere hobjects hprogress hnamed hlegible,
      h.of_same rfl rfl hobjects hpresent⟩
  | @putProject id annotations hkeys =>
    have hid : (Project.edit (w.world.projects.objects.get? id) id annotations).metadata.identify
        .project = .ok id := Project.identify_edit (fun _ hget => h.named hget) annotations
    exact ⟨_, .put hid (Project.keepsDescription_edit hkeys _ id),
      h.applied rfl rfl hid rfl h.present⟩
  | removeProject id => exact ⟨_, .remove id, h.deleted rfl rfl rfl h.present⟩
  | putStaff id email annotations =>
    obtain ⟨hchange, hahead⟩ := hstaff (w.world.staff.put id
      (.edit (w.world.staff.objects.get? id) id email annotations))
    exact ⟨_, hchange, hahead.told _ _⟩
  | removeStaff id =>
    obtain ⟨hchange, hahead⟩ := hstaff (w.world.staff.remove id)
    exact ⟨_, hchange, hahead.told _ _⟩

end WatchedWorld

end WorkspaceAccess
