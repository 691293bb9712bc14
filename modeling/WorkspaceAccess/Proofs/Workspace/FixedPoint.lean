import WorkspaceAccess.Proofs.Deployment.Agreement
import WorkspaceAccess.Proofs.Reconcile.Inspection
import WorkspaceAccess.Proofs.Workspace.Recovery
import WorkspaceAccess.Simulation.WatchedWorld

/-!
# A Reconciled Project Is at Rest

A reconcile that succeeds and leaves the project there has obtained a workspace, whichever way, and
the project describes it. The next reconcile takes another way: it finds the workspace under the
name that was recorded, as the control plane keeps every workspace under its own name
(`InMemory.Built.wellNamed`). What is to be recorded is recorded then, so it only looks
(`IsSettled.inspects`), and the event that announced the patch is not followed by another one.

The workspace that a project gets is told in advance by its annotations and by what is kept
(`InMemory.workspaceFor`): the one that is recorded, if it is there, or else the one under the name
that is derived from the project. A reconcile that succeeds has done three things: it obtained this
workspace, it made the project describe it, and it left all other annotations alone (`Redescribed`).
Together they make the project settled.

That a project is settled is stated for any host, in terms of what two calls are answered. So the
second reconcile may be in the same world or in a watched one, in which an index hears of every
patch; there it is seen that nothing is heard.

## Main results

* `isRecorded_of_describes`, `redescribed_annotate`: the description of a workspace on a project.
* `obtains_of_obtain`, `redescribed_of_record`: what a reconcile that succeeds has done.
* `onlyLooks_of_inspects`, `IsSettled.onlyLooks`: a reconcile of a settled project only looks.
* `isSettled_of_sync`: a reconcile that succeeds settles its project.
* `reconciled_projects_are_at_rest`: every later reconcile creates and patches nothing and comes to
  the same.
* `moved_project_is_recorded_once`: a project that records a workspace which is gone.
-/

namespace WorkspaceAccess

/-- The workspace that a project with these annotations gets: the one that is recorded, if it is
there, or else the one that belongs to the name of the project, which is added if there is none. -/
def InMemory.workspaceFor (r : InMemory) (id : ResourceId) (current : Annotations) :
    WorkspaceInfo :=
  ((current.get? Annotations.workspaceName).bind r.workspaces.get?).getD
    ((r.workspaces.get? (workspaceName id.name)).getD
      (InMemory.requested (workspaceName id.name) id.name))

/-- A request that succeeds is answered with the workspace that is there, or with a new one, and
this is kept. -/
theorem InMemory.kept_of_createWorkspace {r later : InMemory} {name project : String}
    {ws : WorkspaceInfo} (h : r.createWorkspace name project = (.ok ws, later)) :
    ws = (r.workspaces.get? name).getD (requested name project) ∧
      later.getWorkspace name = .ok (some ws) ∧ later.connect = r.connect := by
  rw [createWorkspace] at h
  by_cases hunreachable : r.unreachable
  · rw [if_pos hunreachable] at h
    cases h
  rw [if_neg hunreachable] at h
  cases hget : r.workspaces.get? name with
  | some found =>
    rw [hget] at h
    obtain ⟨hclaim, rfl⟩ := Prod.mk.inj h
    obtain ⟨rfl, -⟩ := WorkspaceInfo.claim_eq_ok_iff.mp hclaim
    exact ⟨rfl, by rw [getWorkspace, if_neg hunreachable, hget], rfl⟩
  | none =>
    rw [hget] at h
    obtain ⟨hws, rfl⟩ := Prod.mk.inj h
    obtain rfl := Except.ok.inj hws
    refine ⟨rfl, ?_, rfl⟩
    rw [getWorkspace, if_neg hunreachable]
    exact congrArg Except.ok (SortedMap.get?_insert_self _ _ _)

namespace Store

variable {α : Type} {s later : Store α} {id : ResourceId}

/-- A patch does not change which reads are refused. -/
theorem readFault_patch (annotate : α → Annotations → α) (s : Store α) (id : ResourceId)
    (annotations : Annotations) :
    (s.patch annotate id annotations).2.readFault = s.readFault := by
  rw [patch]
  split
  · rfl
  split
  · rfl
  split <;> rfl

/-- An object that is there after a patch that was answered was there before and was annotated. -/
theorem annotated_of_patch {annotate : α → Annotations → α} {annotations : Annotations}
    {found : Bool} {object : α} (h : s.patch annotate id annotations = (.ok found, later))
    (hthere : later.objects.get? id = some object) :
    found = true ∧ ∃ old, s.objects.get? id = some old ∧ object = annotate old annotations := by
  rcases s.patch_cases annotate id annotations with
    ⟨e, hcase⟩ | ⟨_, hcase, hget⟩ | ⟨old, _, hold, hcase, hget⟩
  · cases h.symm.trans hcase
  · obtain ⟨-, rfl⟩ := Prod.mk.inj (h.symm.trans hcase)
    rw [hget, if_pos (KeyOrder.compare_self id)] at hthere
    cases hthere
  · obtain ⟨hfound, rfl⟩ := Prod.mk.inj (h.symm.trans hcase)
    rw [hget, if_pos (KeyOrder.compare_self id)] at hthere
    exact ⟨Except.ok.inj hfound, old, hold, (Option.some.inj hthere).symm⟩

/-- Where a read has succeeded, an object that is kept is found. -/
theorem get_of_get {found : Option α} {object : α} (hsame : later.readFault = s.readFault)
    (hread : s.get id = .ok found) (hkept : later.objects.get? id = some object) :
    later.get id = .ok (some object) := by
  rw [get] at hread ⊢
  cases hfault : s.readFault with
  | some refusal =>
    rw [hfault] at hread
    cases hread
  | none => rw [hsame, hfault, hkept]

end Store

namespace Lifecycle

variable {wall : Instant → Timestamp} {config : Config} {id : ResourceId} {now finish : Instant}
  {world later : World} {current : Annotations} {ws : WorkspaceInfo} {p old : Project}

/-! ### The description of a workspace -/

/-- Nothing else is recorded of a workspace than under the three keys. -/
theorem get?_desiredAnnotations_of_notMem {k : String} (hk : k ∉ Annotations.workspaceKeys)
    (ws : WorkspaceInfo) : (desiredAnnotations ws).get? k = none :=
  SortedMap.get?_insertAll_of_notMem hk _

/-- On a project that describes a workspace, everything is recorded. -/
theorem isRecorded_of_describes (h : p.Describes (desiredAnnotations ws)) :
    isRecorded (desiredAnnotations ws) p.annotations = true := by
  rw [isRecorded, List.all_eq_true]
  rintro ⟨k, v⟩ hmem
  have hv : (desiredAnnotations ws).get? k = some v := SortedMap.mem_entries_iff.mp hmem
  have hk : k ∈ Annotations.workspaceKeys := by
    by_contra hother
    rw [get?_desiredAnnotations_of_notMem hother ws] at hv
    cases hv
  rw [beq_iff_eq, h k hk, hv]

/-- A project as it was, except for its description, which is that of a workspace. -/
structure Redescribed (ws : WorkspaceInfo) (old new : Project) : Prop where
  /-- It describes the workspace with all the annotations that it ought to have. -/
  describes : new.Describes (desiredAnnotations ws)
  /-- All other annotations are as they were. -/
  others : ∀ k ∉ Annotations.workspaceKeys, new.annotations.get? k = old.annotations.get? k
  /-- So is everything else of the project. -/
  rest : new = { old with metadata :=
    { old.metadata with annotations := new.metadata.annotations } }

/-- A project on which everything is recorded is redescribed by leaving it as it is. -/
theorem redescribed_of_isRecorded
    (h : isRecorded (desiredAnnotations ws) old.annotations = true) : Redescribed ws old old where
  describes := Project.Describes.of_isRecorded (fun _ _ => rfl) h
  others _ _ := rfl
  rest := rfl

/-- A project that was patched is redescribed by its patch. -/
theorem redescribed_annotate (ws : WorkspaceInfo) (old : Project) :
    Redescribed ws old (old.annotate (desiredAnnotations ws)) where
  describes := .annotate old ws
  others k hk := by
    show (old.annotations.merge (desiredAnnotations ws)).get? k = _
    rw [SortedMap.get?_merge, get?_desiredAnnotations_of_notMem hk, Option.none_or]
  rest := rfl

/-! ### What a reconcile that succeeds has done -/

/-- A workspace was obtained for a project with these annotations. -/
structure Obtains (id : ResourceId) (current : Annotations) (old : World) (ws : WorkspaceInfo)
    (new : World) (story : Story Unit) : Prop where
  /-- It is the one that the project gets. -/
  which : ws = old.remote.workspaceFor id current
  /-- A call was answered with it, a lookup or a request for it. -/
  call : ∃ e ∈ story, e.2.Obtains ws
  /-- It is found under its name in the world that is left. -/
  kept : new.remote.getWorkspace ws.name = .ok (some ws)
  /-- It is nobody else's: this project's, or nobody's. -/
  serves : ws.MayServe id.name
  /-- Connecting is as it was before the run. -/
  connect : new.remote.connect = old.remote.connect
  /-- The projects are as they were, too: the patch comes later. -/
  projects : new.projects = old.projects

/-- A request for the workspace that belongs to the name of a project, when no workspace that is
recorded is there, obtains it. -/
theorem obtains_of_create (hnamed : world.remote.WellNamed)
    (hgone : (current.get? Annotations.workspaceName).bind world.remote.workspaces.get? = none)
    (h : (create () id).run (World.host wall) world now = ⟨.ok ws, later, finish⟩) :
    Obtains id current world ws later ((create () id).story (World.host wall) world now) := by
  rcases hanswer : (World.host wall).answer
    (.createWorkspace () (workspaceName id.name) id.name) _ world with ⟨answer, after⟩
  rw [create, (Activity.await_answered hanswer).1] at h
  rw [create, (Activity.await_answered hanswer).2]
  obtain ⟨rfl, rfl, -⟩ := Ended.mk.inj h
  obtain ⟨hcreate, hprojects⟩ := World.create_of_answer hanswer
  obtain ⟨hwhich, hkept, hconnect⟩ := InMemory.kept_of_createWorkspace hcreate
  obtain ⟨hget, hserves⟩ := InMemory.serves_of_createWorkspace (congrArg Prod.fst hcreate)
  have hlater := hnamed.createWorkspace (workspaceName id.name) id.name
  rw [hcreate] at hget hlater
  have hname : ws.name = workspaceName id.name := hlater _ ws hget
  refine ⟨?_, ⟨_, List.mem_cons_self, .created () _ _ ws⟩, hname ▸ hkept, hserves, hconnect,
    hprojects⟩
  rw [InMemory.workspaceFor, hgone, Option.getD_none]
  exact hwhich

/-- A workspace that is obtained is the one that the project gets. -/
theorem obtains_of_obtain (hnamed : world.remote.WellNamed)
    (h : (obtain () id current).run (World.host wall) world now = ⟨.ok ws, later, finish⟩) :
    Obtains id current world ws later
      ((obtain () id current).story (World.host wall) world now) := by
  rw [obtain] at h ⊢
  cases hname : current.get? Annotations.workspaceName with
  | none =>
    rw [hname] at h
    exact obtains_of_create hnamed (by rw [hname]; rfl) h
  | some name =>
    rw [hname] at h
    have hanswer (clock : Clock) : (World.host wall).answer (.getWorkspace () name) clock world =
        (world.remote.getWorkspace name, world) := rfl
    simp only at h ⊢
    rw [(Activity.await_answered (hanswer _)).1] at h
    rw [(Activity.await_answered (hanswer _)).2]
    rcases hget : world.remote.getWorkspace name with e | ⟨_ | found⟩
    · rw [hget] at h
      cases h
    · rw [hget] at h
      have hgone : (current.get? Annotations.workspaceName).bind world.remote.workspaces.get? =
          none := by
        rw [hname]
        exact InMemory.get?_of_getWorkspace hget
      have hobtains := obtains_of_create hnamed hgone h
      obtain ⟨e, he, hcall⟩ := hobtains.call
      exact { hobtains with call := ⟨e, List.mem_cons_of_mem _ he, hcall⟩ }
    · rw [hget] at h
      obtain ⟨hclaim, rfl, -⟩ := Ended.mk.inj h
      obtain ⟨rfl, hserves⟩ := WorkspaceInfo.claim_eq_ok_iff.mp hclaim
      have hfound := InMemory.get?_of_getWorkspace hget
      refine ⟨?_, ⟨_, List.mem_cons_self, .found () name _⟩, ?_, hserves, rfl, rfl⟩
      · rw [InMemory.workspaceFor, hname, Option.bind_some, hfound, Option.getD_some]
      · rw [hnamed name ws hfound]
        exact hget

/-- A project that is there after a workspace was recorded on it is described by the workspace. -/
theorem redescribed_of_record {action : Action} (hold : world.projects.objects.get? id = some old)
    (h : (record config id old.annotations ws).run (World.host wall) world now =
      ⟨.ok action, later, finish⟩)
    (hthere : later.projects.objects.get? id = some p) :
    Redescribed ws old p ∧ action = Leg.actionOf config ws ∧ later.remote = world.remote ∧
      later.projects.readFault = world.projects.readFault := by
  cases hrecorded : isRecorded (desiredAnnotations ws) old.annotations with
  | true =>
    rw [record, if_pos hrecorded] at h
    obtain ⟨hresult, rfl, -⟩ := Ended.mk.inj h
    obtain rfl := Option.some.inj (hold.symm.trans hthere)
    exact ⟨redescribed_of_isRecorded hrecorded, (Except.ok.inj hresult).symm, rfl, rfl⟩
  | false =>
    rw [record, if_neg (by rw [hrecorded]; exact Bool.false_ne_true)] at h
    rcases hanswer : (World.host wall).answer (.patchProject id (desiredAnnotations ws)) _ world
      with ⟨answer, after⟩
    rw [(Activity.await_answered hanswer).1] at h
    obtain ⟨hpatch, hremote⟩ : world.projects.patch Project.annotate id (desiredAnnotations ws) =
        (answer, after.projects) ∧ after.remote = world.remote := by
      cases hanswer
      exact ⟨rfl, rfl⟩
    cases answer with
    | error e => cases h
    | ok found =>
      have hlater : after = later := by
        cases found <;> exact congrArg Ended.world h
      subst hlater
      obtain ⟨rfl, before, hbefore, rfl⟩ := Store.annotated_of_patch hpatch hthere
      obtain rfl := Option.some.inj (hold.symm.trans hbefore)
      have hfault := world.projects.readFault_patch Project.annotate id (desiredAnnotations ws)
      rw [hpatch] at hfault
      have haction := congrArg Ended.result h
      exact ⟨redescribed_annotate ws old, (Except.ok.inj haction).symm, hremote, hfault⟩

/-! ### A project for which there is nothing to do -/

/-- The calls of a reconcile that finds a project and its workspace. -/
def lookups {σ : Type} (session : σ) (id : ResourceId) (workspace : String) : List (Call σ) :=
  [.getProject id, .connect, .getWorkspace session workspace]

/-- A project describes its workspace, and both are found. -/
structure IsSettled {σ ω : Type} (host : Host σ ω) (session : σ) (id : ResourceId) (p : Project)
    (ws : WorkspaceInfo) (w : ω) : Prop where
  /-- The project is found when it is looked up. -/
  found (clock : Clock) : host.answer (.getProject id) clock w = (.ok (some p), w)
  /-- Connecting succeeds, and changes nothing. -/
  connect (clock : Clock) : host.answer .connect clock w = (.ok session, w)
  /-- The workspace is found under its name, and looking changes nothing. -/
  kept (clock : Clock) : host.answer (.getWorkspace session ws.name) clock w = (.ok (some ws), w)
  /-- It is nobody else's: this project's, or nobody's. -/
  serves : ws.MayServe id.name
  /-- The project describes it with all the annotations that it ought to have. -/
  describes : p.Describes (desiredAnnotations ws)

/-- A reconcile of a project that does nothing but look, from a point in time, in a world. -/
structure OnlyLooks {σ ω : Type} (host : Host σ ω) (config : Config) (id : ResourceId)
    (deadline now : Instant) (calls : List (Call σ)) (action : Action) (w : ω) : Prop where
  /-- The world is as it was before the run. -/
  unchanged : ((reconcile config id deadline).run host w now).world = w
  /-- If there is time for the calls, it comes to this action. -/
  result : Fits (host.timeOf w calls) now deadline →
    ((reconcile config id deadline).run host w now).result = .ok action
  /-- If there is not, it is late, and the error says so. -/
  late : ¬Fits (host.timeOf w calls) now deadline →
    ((reconcile config id deadline).run host w now).result = .error .timeout
  /-- Whatever is done in it is one of these calls. -/
  story : ∀ e ∈ (reconcile config id deadline).story host w now,
    ∃ call ∈ calls, e.2.call? = some call

section

variable {σ ω : Type} {host : Host σ ω} {session : σ} {w : ω}

/-- A reconcile does what is to be done up to its deadline, and has failed without a result. -/
theorem run_reconcile (host : Host σ ω) (config : Config) (id : ResourceId)
    (deadline : Instant) (w : ω) (now : Instant) :
    let ended := ((sync config id).within deadline).run host w now
    (reconcile config id deadline).run host w now =
        ⟨ended.result.getD (.error .timeout), ended.world, ended.instant⟩ ∧
      (reconcile config id deadline).story host w now =
        ((sync config id).within deadline).story host w now := by
  rw [reconcile, Activity.map, Activity.run_bind, Activity.story_bind]
  refine ⟨?_, List.append_nil _⟩
  cases ((sync config id).within deadline).run host w now with
  | mk result after instant => cases result <;> rfl

/-- A reconcile that inspects a world only looks, whatever its deadline is, as long as there is time
for the looks. -/
theorem onlyLooks_of_inspects {calls : List (Call σ)} {action : Action}
    (h : (sync config id).Inspects host w (.ok action) calls) (deadline now : Instant) :
    OnlyLooks host config id deadline now calls action w := by
  obtain ⟨hrun, hstory⟩ := run_reconcile host config id deadline w now
  obtain ⟨hfits, hlate⟩ := h.run_within deadline now
  constructor
  · rw [hrun]
    by_cases hin : Fits (host.timeOf w calls) now deadline
    · rw [hfits hin]
    · obtain ⟨later, hnone⟩ := hlate hin
      rw [hnone]
  · intro hin
    rw [hrun, hfits hin]
    rfl
  · intro hin
    obtain ⟨later, hnone⟩ := hlate hin
    rw [hrun, hnone]
    rfl
  · rw [hstory]
    exact h.story_within deadline now

namespace IsSettled

/-- The workspace is found and everything is recorded, so that a reconcile makes its look-ups and
ends. -/
theorem inspects (h : IsSettled host session id p ws w) (config : Config) :
    (sync config id).Inspects host w (.ok (Leg.actionOf config ws))
      (lookups session id ws.name) := by
  refine .await h.found (.await h.connect ?_)
  have hobtain : (obtain session id p.annotations).Inspects host w (.ok ws)
      [.getWorkspace session ws.name] := by
    rw [obtain, h.describes.name]
    have hclaim : ws.claim id.name = .ok ws := WorkspaceInfo.claim_eq_ok_iff.mpr ⟨rfl, h.serves⟩
    exact .await h.kept (hclaim ▸ .done _)
  have hrecord : (record config id p.annotations ws).Inspects host w
      (.ok (Leg.actionOf config ws)) [] := by
    rw [record, if_pos (isRecorded_of_describes h.describes)]
    exact .done _
  exact hobtain.bind hrecord

/-- A reconcile of a project for which there is nothing to do only looks. -/
theorem onlyLooks (h : IsSettled host session id p ws w) (config : Config)
    (deadline now : Instant) :
    OnlyLooks host config id deadline now (lookups session id ws.name) (Leg.actionOf config ws) w :=
  onlyLooks_of_inspects (h.inspects config) deadline now

/-- There is nothing to do in a watched world either. -/
theorem watched {w : WatchedWorld} (h : IsSettled (World.host wall) () id p ws w.world) :
    IsSettled (WatchedWorld.host wall) () id p ws w where
  found clock := Prod.ext (congrArg Prod.fst (h.found clock) :) rfl
  connect clock := Prod.ext (congrArg Prod.fst (h.connect clock) :) rfl
  kept clock := Prod.ext (congrArg Prod.fst (h.kept clock) :) rfl
  serves := h.serves
  describes := h.describes

end IsSettled

end

/-! ### A reconcile that succeeds -/

/-- A reconcile that succeeds, and after which the project is there, has found the project and
connected, and goes on with obtaining and recording a workspace. -/
theorem exists_run_of_sync {action : Action}
    (h : (sync config id).run (World.host wall) world now = ⟨.ok action, later, finish⟩)
    (hthere : later.projects.objects.get? id = some p) :
    ∃ old start, world.projects.get id = .ok (some old) ∧ world.remote.connect = .ok () ∧
      let goOn := (obtain () id old.annotations).bind
        (Leg.recordObtained config id old.annotations)
      goOn.run (World.host wall) world start = ⟨.ok action, later, finish⟩ ∧
        ∀ e ∈ goOn.story (World.host wall) world start,
          e ∈ (sync config id).story (World.host wall) world now := by
  have hget (clock : Clock) : (World.host wall).answer (.getProject id) clock world =
      (world.projects.get id, world) := rfl
  have hconnect (clock : Clock) : (World.host wall).answer .connect clock world =
      (world.remote.connect, world) := rfl
  rw [sync, (Activity.await_answered (hget _)).1] at h
  rw [sync, (Activity.await_answered (hget _)).2]
  rcases hread : world.projects.get id with e | ⟨_ | old⟩
  · rw [hread] at h
    cases h
  · rw [hread] at h
    cases h
    rw [Store.get?_of_get hread] at hthere
    cases hthere
  rw [hread] at h
  simp only at h ⊢
  rw [(Activity.await_answered (hconnect _)).1] at h
  rw [(Activity.await_answered (hconnect _)).2]
  cases hsession : world.remote.connect with
  | error e =>
    rw [hsession] at h
    cases h
  | ok session =>
    rw [hsession] at h
    exact ⟨old, _, rfl, rfl, h,
      fun e he => List.mem_cons_of_mem _ (List.mem_cons_of_mem _ he)⟩

/-- A reconcile that succeeds, and after which the project is there, settles it with the workspace
that it gets. -/
theorem isSettled_of_sync {action : Action} (hnamed : world.remote.WellNamed)
    (h : (sync config id).run (World.host wall) world now = ⟨.ok action, later, finish⟩)
    (hthere : later.projects.objects.get? id = some p) :
    ∃ old, world.projects.objects.get? id = some old ∧
      let ws := world.remote.workspaceFor id old.annotations
      (∃ e ∈ (sync config id).story (World.host wall) world now, e.2.Obtains ws) ∧
        Redescribed ws old p ∧ action = Leg.actionOf config ws ∧
          IsSettled (World.host wall) () id p ws later := by
  obtain ⟨old, start, hread, hconnect, hrun, hstory⟩ := exists_run_of_sync h hthere
  rw [Activity.run_bind] at hrun
  rw [Activity.story_bind] at hstory
  have hold := Store.get?_of_get hread
  rcases hobtain : (obtain () id old.annotations).run (World.host wall) world start with
    ⟨answer, between, instant⟩
  rw [hobtain] at hrun hstory
  cases answer with
  | error e => cases hrun
  | ok ws =>
    obtain ⟨rfl, ⟨e, he, hcall⟩, hkept, hserves, hsame, hprojects⟩ :=
      obtains_of_obtain hnamed hobtain
    have hbefore : between.projects.objects.get? id = some old := by rw [hprojects, hold]
    obtain ⟨hredescribed, haction, hremote, hreadable⟩ :=
      redescribed_of_record hbefore hrun hthere
    rw [hprojects] at hreadable
    refine ⟨old, hold, ⟨e, hstory e (List.mem_append_left _ he), hcall⟩, hredescribed, haction,
      fun _ => Prod.ext (Store.get_of_get hreadable hread hthere) rfl, fun _ => Prod.ext ?_ rfl,
      fun _ => Prod.ext ?_ rfl, hserves, hredescribed.describes⟩
    · show later.remote.connect = _
      rw [hremote, hsame, hconnect]
    · show later.remote.getWorkspace _ = _
      rw [hremote, hkept]

/-- A reconcile that succeeds, and after which the project is there, leaves it as it was except for
the description of the workspace that the project gets, which was obtained by one of its calls, is
kept and is nobody else's. Where nothing else changes, every later reconcile creates and patches
nothing and comes to the same if it is in time. In a world that is watched nothing is asked for by
it, so that the event of the patch has no successor. -/
theorem reconciled_projects_are_at_rest (wall : Instant → Timestamp) (config : Config)
    (id : ResourceId) {world later : World} {deadline start finish : Instant} {action : Action}
    {p : Project} (hnamed : world.remote.WellNamed)
    (h : (reconcile config id deadline).run (World.host wall) world start =
      ⟨.ok action, later, finish⟩)
    (hthere : later.projects.objects.get? id = some p) :
    ∃ old, world.projects.objects.get? id = some old ∧
      let ws := world.remote.workspaceFor id old.annotations
      (∃ e ∈ (reconcile config id deadline).story (World.host wall) world start,
        e.2.Obtains ws) ∧
      Redescribed ws old p ∧
      later.remote.workspaces.get? ws.name = some ws ∧ ws.MayServe id.name ∧
      action = Leg.actionOf config ws ∧
      (∀ deadline now, OnlyLooks (World.host wall) config id deadline now
        (lookups () id ws.name) action later) ∧
      ∀ w : WatchedWorld, w.world = later → ∀ deadline now,
        OnlyLooks (WatchedWorld.host wall) config id deadline now (lookups () id ws.name) action
          w := by
  obtain ⟨hrun, hstory⟩ := run_reconcile (World.host wall) config id deadline world start
  rw [hrun] at h
  rcases hwithin : ((sync config id).within deadline).run (World.host wall) world start with
    ⟨result, after, instant⟩
  rw [hwithin] at h
  obtain ⟨hresult, rfl, rfl⟩ := Ended.mk.inj h
  cases result with
  | none => cases hresult
  | some result =>
    obtain rfl : result = .ok action := hresult
    obtain ⟨hsync, hsame⟩ := Activity.run_of_within hwithin
    obtain ⟨old, hold, hobtains, hredescribed, haction, hsettled⟩ :=
      isSettled_of_sync hnamed hsync hthere
    have hkept := congrArg Prod.fst (hsettled.kept ((World.host wall).clock start))
    refine ⟨old, hold, ?_, hredescribed, InMemory.get?_of_getWorkspace hkept, hsettled.serves,
      haction, ?_, ?_⟩
    · rw [hstory, ← hsame]
      exact hobtains
    · rw [haction]
      exact hsettled.onlyLooks config
    · rintro w rfl
      rw [haction]
      exact hsettled.watched.onlyLooks config

/-! ### A project whose workspace is gone -/

/-- A project that records a workspace which is gone, under another name than its own. -/
def movedZot : Project :=
  .edit none (projectNamed "zot") <| .ofList [
    (Annotations.workspaceName, "zot-registry"),
    (Annotations.workspacePhase, "Ready"),
    ("team", "registry")]

/-- It is in a world in which looking a workspace up takes long. -/
def moved : World where
  remote := InMemory.addWorkspace { sourceNamespace := "maintainerd" } "tuf" .ready true
  projects := { objects := .ofList [(projectNamed "zot", movedZot)] }
  delays := .ofList [("get", 400)]

/-- The first reconcile adds a workspace under another name and records it, and the second one only
looks and comes to the same. -/
theorem moved_project_is_recorded_once :
    (reconcileZot moved).result = .ok (.requeue Config.standard.pollInterval) ∧
      (reconcileZot moved).world.remote.creates = 1 ∧
      (reconcileZot moved).world.projects.patches.length = 1 ∧
      (∃ p, (reconcileZot moved).world.projects.objects.get? (projectNamed "zot") = some p ∧
        p.annotations.get? Annotations.workspaceName = some "zot" ∧
        p.annotations.get? "team" = some "registry") ∧
      (reconcileZot (reconcileZot moved).world).world = (reconcileZot moved).world ∧
      (reconcileZot (reconcileZot moved).world).result =
        .ok (.requeue Config.standard.pollInterval) := by
  have hnamed : moved.remote.WellNamed :=
    (InMemory.Built.new "maintainerd").add "tuf" .ready true |>.wellNamed
  have hrun : (reconcile .standard (projectNamed "zot") 1000).run (World.host fun _ => .epoch)
      moved 0 = ⟨.ok (.requeue Config.standard.pollInterval), (reconcileZot moved).world,
        (reconcileZot moved).instant⟩ := rfl
  obtain ⟨p, hthere⟩ : ∃ p,
      (reconcileZot moved).world.projects.objects.get? (projectNamed "zot") = some p :=
    Option.isSome_iff_exists.mp (by decide)
  obtain ⟨old, hold, -, hredescribed, -, -, -, hlooks, -⟩ :=
    reconciled_projects_are_at_rest (fun _ => .epoch) .standard (projectNamed "zot") hnamed hrun
      hthere
  obtain rfl : movedZot = old := Option.some.inj hold
  have hagain := hlooks 1000 0
  refine ⟨rfl, rfl, rfl, ⟨p, hthere, hredescribed.describes.name, ?_⟩, hagain.unchanged,
    hagain.result (by decide)⟩
  rw [hredescribed.others "team" (by decide)]
  decide

end Lifecycle

end WorkspaceAccess
