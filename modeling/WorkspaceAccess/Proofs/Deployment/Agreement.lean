import WorkspaceAccess.Proofs.Deployment.Records
import WorkspaceAccess.Proofs.Object.Wire
import WorkspaceAccess.Proofs.Reconcile.Passage
import WorkspaceAccess.Proofs.Remote.Protocol

/-!
# All Agree on Which Workspaces Are Ready

That a workspace is ready is said in four places: by the status of its object, by what the
controllers see of the object, by the annotations that a reconcile records on the project, and by
what the index reads from these. A reconcile goes by what it records as well when it decides whether
to look again. They all agree, whatever the phase of the object reads: the workspace is ready when
the phase is the text `Ready` and the object has an address.

Here the remote control plane is behind a network that may reply anything (`NetworkedWorld`), so
that what the controllers see of a workspace is always read from an object. A phase may be any text.
Those that have no meaning are kept as they are, and a phase that is written like the ready one is
the ready one.

The hard part is that the record outlives the reconcile. `Project.Describes` says that the
annotations of a project are those for a workspace, and `Leg.Tells` what is known on each leg of the
workspace that was obtained and of the project: it is to be recorded, or it is recorded already.
Others may change the project meanwhile, as long as they leave these annotations alone.

## Main results

* `Workspace.text_phase_iff`, `Workspace.url_eq_some_iff`: what is seen of an object.
* `recordedPhase_text_iff`, `actionFor_ofText`: what is recorded of it, and what is left to do then.
* `Leg.Move.tells`: what is known of what was obtained, and of the project, is kept by the moves.
* `Leg.Move.addressed`, `describing_keeps`: a project that records a workspace as ready records an
  address of it.
* `readiness_is_agreed_on`: when a reconcile that obtained a workspace succeeds, all four places
  agree, and it looks again unless the phase that it recorded is the ready or the failed one.
* `zot_is_agreed_to_be_ready`: a new project whose workspace is ready at once.
-/

namespace WorkspaceAccess

/-! ### What an object says -/

/-- The status of a workspace object says that it is ready, and it has an address. -/
def Workspace.IsUsable (ws : Workspace) : Prop :=
  ws.status.bind (·.phase) = some "Ready" ∧ ∃ url, ws.spec.url = some url ∧ url ≠ ""

/-- The phase of an object is the ready one just when the status says so. -/
theorem Workspace.isReady_phase_iff (ws : Workspace) :
    ws.phase.isReady = true ↔ ws.status.bind (·.phase) = some "Ready" := by
  rw [Phase.isReady, beq_iff_eq, phase]
  cases ws.status.bind (·.phase) with
  | none => simp [Phase.ofText?]
  | some text => rw [Phase.ofText?, Phase.ofText_eq_ready_iff, Option.some.injEq]

/-- The phase of an object is written like the ready one just when it is that. -/
theorem Workspace.text_phase_iff (ws : Workspace) :
    ws.phase.text = "Ready" ↔ ws.phase.isReady = true := by
  rw [isReady_phase_iff, phase]
  cases ws.status.bind (·.phase) with
  | none => simp [Phase.ofText?, Phase.text]
  | some text =>
    rw [Phase.ofText?, Phase.text_ofText, Option.some.injEq]
    split
    · simp_all
    · rfl

/-- What is seen of the address of an object is the one that it specifies, unless that is empty. -/
theorem Workspace.url_eq_some_iff (ws : Workspace) {url : String} :
    ws.url = some url ↔ ws.spec.url = some url ∧ url ≠ "" := by
  rw [Workspace.url, Option.filter_eq_some_iff, decide_eq_true_iff]

namespace Lifecycle

/-- A workspace is recorded as ready just when its object says that it is and has an address. -/
theorem recordedPhase_text_iff (ws : Workspace) :
    (recordedPhase ws.info).text = "Ready" ↔ ws.IsUsable := by
  have hphase : ws.info.phase = ws.phase := rfl
  have hurl : ws.info.url = ws.url := rfl
  rw [recordedPhase, hphase, hurl, Workspace.IsUsable, ← Workspace.isReady_phase_iff]
  simp only [← Workspace.url_eq_some_iff, ← Option.isSome_iff_exists]
  have htext := ws.text_phase_iff
  cases hready : ws.phase.isReady with
  | false =>
    rw [hready] at htext
    simp [htext]
  | true =>
    rw [hready] at htext
    cases ws.url with
    | none => simp [show Phase.initializing.text ≠ "Ready" by decide]
    | some url => simp [htext]

/-- What is left to do, by the text of the phase that is recorded. -/
theorem actionFor_ofText (config : Config) (text : String) :
    actionFor config (Phase.ofText text) =
      if text = "Ready" ∨ text = "Failed" then .done else .requeue config.pollInterval := by
  simp [actionFor, Phase.isReady, Phase.isTerminal, Phase.ofText_eq_ready_iff,
    Phase.ofText_eq_failed_iff]

end Lifecycle

/-! ### A control plane behind a network -/

/-- A network, behind which the remote control plane is, and the local cluster. -/
structure NetworkedWorld (s : Type) where
  /-- The network, with the state that the servers behind it have reached. -/
  network : s
  /-- The projects, with the version of each. -/
  projects : Store Project := Store.empty
  /-- The staff members, with the version of each. -/
  staff : Store StaffMember := Store.empty

namespace NetworkedWorld

variable {s α : Type}

/-- Carries an exchange out over the network of a world, and keeps the rest of the world as it
is. -/
def exchange (net : Network s) (e : Exchange α) (w : NetworkedWorld s) : α × NetworkedWorld s :=
  ((e.run net w.network).1, { w with network := (e.run net w.network).2 })

/-- What a call is answered, and the world afterwards, by how sessions are opened. -/
def answer (net : Network s) (connect : Exchange (Except RemoteError RemoteSession))
    (call : Call RemoteSession) (w : NetworkedWorld s) : call.Answer × NetworkedWorld s :=
  match call with
  | .connect => w.exchange net connect
  | .getWorkspace session name => w.exchange net (session.getWorkspace name)
  | .createWorkspace session name project => w.exchange net (session.createWorkspace name project)
  | .listWorkspaces session => w.exchange net session.listWorkspaces
  | .writeBinding session workspace subjects =>
    w.exchange net (session.writeBinding workspace subjects)
  | .getProject id => (w.projects.get id, w)
  | .patchProject id annotations =>
    let (r, projects) := w.projects.patch Project.annotate id annotations
    (r, { w with projects })
  | .listStaff => (w.staff.list, w)
  | .patchStaff id annotations =>
    let (r, staff) := w.staff.patch StaffMember.annotate id annotations
    (r, { w with staff })

/-- The world as the host of activities. How long calls take is left open: a turn may give any of
them up. -/
def host (net : Network s) (connect : Exchange (Except RemoteError RemoteSession))
    (wall : Instant → Timestamp) : Host RemoteSession (NetworkedWorld s) where
  delay _ _ := 0
  answer call _ w := answer net connect call w
  report _ w := w
  wall := wall

end NetworkedWorld

namespace RemoteSession

variable {s : Type} {net : Network s} {session : RemoteSession} {state : s} {name : String}
  {info : WorkspaceInfo}

/-- A workspace that is found is seen from an object. -/
theorem info_of_getWorkspace (h : ((session.getWorkspace name).run net state).1 = .ok (some info)) :
    ∃ ws : Workspace, info = ws.info := by
  rw [getWorkspace, Exchange.map, Exchange.run_bind] at h
  rcases hget : ((session.workspaces.get? name).run net state).1 with e | ⟨_ | ws⟩
  · rw [hget] at h
    cases h
  · rw [hget] at h
    cases h
  · rw [hget] at h
    cases h
    exact ⟨ws, rfl⟩

/-- A workspace that is given to a project is seen from an object. -/
theorem info_of_createWorkspace {project : String}
    (h : ((session.createWorkspace name project).run net state).1 = .ok info) :
    ∃ ws : Workspace, info = ws.info := by
  rw [createWorkspace, Exchange.map, Exchange.run_bind] at h
  generalize (Exchange.run net _ state).1 = answer at h
  cases answer with
  | error e => cases h
  | ok ws =>
    obtain ⟨rfl, -⟩ := WorkspaceInfo.claim_eq_ok_iff.mp h
    exact ⟨ws, rfl⟩

end RemoteSession

/-! ### What is recorded on a project -/

/-- The annotations of a project describe the workspace as others do. -/
def Project.Describes (p : Project) (annotations : Annotations) : Prop :=
  ∀ k ∈ Annotations.workspaceKeys, p.annotations.get? k = annotations.get? k

namespace Project.Describes

variable {p : Project} {annotations : Annotations} {ws : WorkspaceInfo}

/-- A project that keeps its description describes the workspace as before. -/
theorem of_keeps {later : Project} (h : p.Describes annotations)
    (hkeeps : Project.KeepsDescription (some p) later) : later.Describes annotations :=
  fun k hk => (hkeeps k hk).trans (h k hk)

/-- What is recorded of a workspace covers the description of a workspace. -/
theorem exists_desired {k : String} (hk : k ∈ Annotations.workspaceKeys) (ws : WorkspaceInfo) :
    ∃ v, (Lifecycle.desiredAnnotations ws).get? k = some v := by
  simp only [Annotations.workspaceKeys, List.mem_cons, List.not_mem_nil, or_false] at hk
  rcases hk with rfl | rfl | rfl
  · exact ⟨_, Lifecycle.get?_desiredAnnotations_name ws⟩
  · exact ⟨_, Lifecycle.get?_desiredAnnotations_url ws⟩
  · exact ⟨_, Lifecycle.get?_desiredAnnotations_phase ws⟩

/-- A project on which a workspace was recorded describes it. -/
theorem annotate (p : Project) (ws : WorkspaceInfo) :
    (p.annotate (Lifecycle.desiredAnnotations ws)).Describes (Lifecycle.desiredAnnotations ws) := by
  intro k hk
  obtain ⟨v, hv⟩ := exists_desired hk ws
  show (p.annotations.merge (Lifecycle.desiredAnnotations ws)).get? k = _
  rw [SortedMap.get?_merge, hv, Option.some_or]

/-- A workspace whose annotations are there already is described by them. -/
theorem of_isRecorded (h : p.Describes annotations)
    (hrecorded : Lifecycle.isRecorded (Lifecycle.desiredAnnotations ws) annotations = true) :
    p.Describes (Lifecycle.desiredAnnotations ws) := by
  intro k hk
  obtain ⟨v, hv⟩ := exists_desired hk ws
  have hall := List.all_eq_true.mp hrecorded (k, v) (SortedMap.mem_entries_iff.mpr hv)
  rw [h k hk, hv]
  exact beq_iff_eq.mp hall

/-- The phase that is recorded on a project which describes a workspace. -/
theorem phase (h : p.Describes (Lifecycle.desiredAnnotations ws)) :
    p.annotations.get? Annotations.workspacePhase = some (Lifecycle.recordedPhase ws).text :=
  (h _ (by decide)).trans (Lifecycle.get?_desiredAnnotations_phase ws)

/-- The name that is recorded on a project which describes a workspace. -/
theorem name (h : p.Describes (Lifecycle.desiredAnnotations ws)) :
    p.annotations.get? Annotations.workspaceName = some ws.name :=
  (h _ (by decide)).trans (Lifecycle.get?_desiredAnnotations_name ws)

/-- The address that is recorded on a project which describes a workspace, the empty text where
there is none. -/
theorem url (h : p.Describes (Lifecycle.desiredAnnotations ws)) :
    p.annotations.get? Annotations.workspaceUrl = some (ws.url.getD "") :=
  (h _ (by decide)).trans (Lifecycle.get?_desiredAnnotations_url ws)

end Project.Describes

/-- A project that records a workspace as ready records an address of it. -/
def Project.HasAddress (p : Project) : Prop :=
  p.annotations.get? Annotations.workspacePhase = some "Ready" →
    ∃ url, p.annotations.get? Annotations.workspaceUrl = some url ∧ url ≠ ""

/-- The projects that record a workspace as ready record an address of it. -/
def NetworkedWorld.Addressed {s : Type} (world : NetworkedWorld s) : Prop :=
  ∀ id project, world.projects.objects.get? id = some project → project.HasAddress

/-- A project that describes a workspace object records its address where it is ready. -/
theorem Project.Describes.hasAddress {p : Project} {ws : Workspace}
    (h : p.Describes (Lifecycle.desiredAnnotations ws.info)) : p.HasAddress := by
  intro hready
  rw [h.phase, Option.some.injEq, Lifecycle.recordedPhase_text_iff] at hready
  obtain ⟨-, url, hurl, hne⟩ := hready
  have hsome : ws.url = some url := ws.url_eq_some_iff.mpr ⟨hurl, hne⟩
  have hinfo : ws.info.url = some url := hsome
  refine ⟨url, ?_, hne⟩
  rw [h.url, hinfo, Option.getD_some]

/-! ### What a reconcile has obtained -/

/-- A workspace was found, or given to a project. -/
inductive Deed.Obtains {σ : Type} : Deed σ → WorkspaceInfo → Prop
  /-- It was looked up and found, with this information. -/
  | found (session : σ) (name : String) (ws : WorkspaceInfo) :
      Obtains (.answered (.getWorkspace session name) (.ok (some ws))) ws
  /-- It was asked for, and is the one that was created or accepted. -/
  | created (session : σ) (name project : String) (ws : WorkspaceInfo) :
      Obtains (.answered (.createWorkspace session name project) (.ok ws)) ws

/-- Among some deeds, a workspace was found or given to a project. -/
def Obtained {σ : Type} (deeds : List (Deed σ)) (ws : WorkspaceInfo) : Prop :=
  ∃ deed ∈ deeds, deed.Obtains ws

/-- What was obtained was obtained by the last deed or before it. -/
theorem Obtained.of_cons {σ : Type} {deed : Deed σ} {deeds : List (Deed σ)} {ws : WorkspaceInfo}
    (h : Obtained (deed :: deeds) ws) : deed.Obtains ws ∨ Obtained deeds ws := by
  obtain ⟨e, he, hobtains⟩ := h
  rcases List.mem_cons.mp he with rfl | he
  · exact .inl hobtains
  · exact .inr ⟨e, he, hobtains⟩

/-- Where nothing was obtained before and nothing is now, nothing was obtained. -/
theorem not_obtained_cons {σ : Type} {deed : Deed σ} {deeds : List (Deed σ)}
    (hdeed : ∀ ws, ¬deed.Obtains ws) (hdeeds : ∀ ws, ¬Obtained deeds ws) :
    ∀ ws, ¬Obtained (deed :: deeds) ws :=
  fun ws h => h.of_cons.elim (hdeed ws) (hdeeds ws)

namespace Lifecycle

namespace Leg

variable {s : Type} {net : Network s} {connect : Exchange (Except RemoteError RemoteSession)}
  {wall : Instant → Timestamp} {config : Config} {id : ResourceId} {now : Instant}
  {world later : NetworkedWorld s} {leg next : Leg RemoteSession}
  {deed : Deed RemoteSession} {deeds : List (Deed RemoteSession)}

/-- What is known on a leg of what was obtained, and of the project. -/
def Tells (config : Config) (id : ResourceId) (deeds : List (Deed RemoteSession))
    (projects : SortedMap ResourceId Project) : Leg RemoteSession → Prop
  | fetching => ∀ found, ¬Obtained deeds found
  | connecting current | looking _ current _ | creating _ current =>
    (∀ found, ¬Obtained deeds found) ∧
      ∀ p, projects.get? id = some p → p.Describes current
  | recording ws => ∀ found, Obtained deeds found → found = ws
  | ended (.ok action) => ∀ found, Obtained deeds found → ∀ p, projects.get? id = some p →
    p.Describes (desiredAnnotations found) ∧ action = actionOf config found
  | ended (.error _) => True

/-- A workspace that was obtained is to be recorded, or it is described already. -/
theorem tells_obtained {projects : SortedMap ResourceId Project} {current : Annotations}
    {answer : Except RemoteError WorkspaceInfo}
    (hstored : ∀ p, projects.get? id = some p → p.Describes current)
    (honly : ∀ ws found, answer = .ok ws → Obtained deeds found → found = ws) :
    (obtained config current answer).Tells config id deeds projects := by
  cases answer with
  | error e => trivial
  | ok ws =>
    rw [obtained]
    split
    · rename_i hrecorded
      intro found hfound p hp
      obtain rfl := honly ws found rfl hfound
      exact ⟨(hstored p hp).of_isRecorded hrecorded, rfl⟩
    · exact fun found => honly ws found rfl

/-- A project that was patched describes the workspace that was obtained, or it is gone. -/
theorem tells_patched {projects patchedProjects : Store Project} {ws : WorkspaceInfo}
    {answer : Except ApiError Bool}
    (hpatch : projects.patch Project.annotate id (desiredAnnotations ws) =
      (answer, patchedProjects))
    (honly : ∀ found, Obtained deeds found → found = ws) :
    (patched config ws answer).Tells config id deeds patchedProjects.objects := by
  rcases projects.patch_cases Project.annotate id (desiredAnnotations ws) with
    ⟨e, hcase⟩ | ⟨_, hcase, hget⟩ | ⟨old, _, -, hcase, hget⟩
  · obtain ⟨rfl, -⟩ := Prod.mk.inj (hpatch.symm.trans hcase)
    trivial
  · obtain ⟨rfl, rfl⟩ := Prod.mk.inj (hpatch.symm.trans hcase)
    intro found hfound p hp
    rw [hget, if_pos (KeyOrder.compare_self id)] at hp
    cases hp
  · obtain ⟨rfl, rfl⟩ := Prod.mk.inj (hpatch.symm.trans hcase)
    intro found hfound p hp
    rw [hget, if_pos (KeyOrder.compare_self id)] at hp
    obtain rfl := honly found hfound
    obtain rfl := Option.some.inj hp
    exact ⟨.annotate old found, rfl⟩

/-- What is known of what was obtained, and of the project, is kept by the moves. -/
theorem Move.tells
    (h : Move (NetworkedWorld.host net connect wall) config id now world leg deed next later)
    (htells : leg.Tells config id deeds world.projects.objects) :
    next.Tells config id (deed :: deeds) later.projects.objects := by
  cases h with
  | @fetch project _ h =>
    obtain ⟨hget, rfl⟩ := Prod.mk.inj h
    refine ⟨not_obtained_cons (by rintro _ ⟨⟩) htells, fun p hp => ?_⟩
    obtain rfl : project = p := Option.some.inj ((Store.get?_of_get hget).symm.trans hp)
    exact fun _ _ => rfl
  | fetchNothing =>
    exact fun found hfound => absurd hfound (not_obtained_cons (by rintro _ ⟨⟩) htells found)
  | fetchFails | connectFails | giveUp => trivial
  | @connect current session _ h =>
    obtain ⟨-, rfl⟩ := Prod.mk.inj h
    have hnothing : ∀ found, ¬Obtained (.answered .connect (.ok session) :: deeds) found :=
      not_obtained_cons (by rintro _ ⟨⟩) htells.1
    rw [connected]
    split <;> exact ⟨hnothing, htells.2⟩
  | @look session current name answer _ h =>
    obtain ⟨-, rfl⟩ := Prod.mk.inj h
    rcases answer with e | ⟨_ | seen⟩
    · trivial
    · exact ⟨not_obtained_cons (by rintro _ ⟨⟩) htells.1, htells.2⟩
    · refine tells_obtained htells.2 fun ws found haccepted hfound => ?_
      obtain ⟨rfl, -⟩ := WorkspaceInfo.claim_eq_ok_iff.mp haccepted
      rcases hfound.of_cons with hnow | hbefore
      · cases hnow
        rfl
      · exact absurd hbefore (htells.1 found)
  | @create session current answer _ h =>
    obtain ⟨-, rfl⟩ := Prod.mk.inj h
    -- A workspace is only asked for where none was found, so that no other one was obtained.
    refine tells_obtained htells.2 fun ws found haccepted hfound => ?_
    subst haccepted
    rcases hfound.of_cons with hnow | hbefore
    · cases hnow
      rfl
    · exact absurd hbefore (htells.1 found)
  | @patch ws answer _ h =>
    have hpatch : world.projects.patch Project.annotate id (desiredAnnotations ws) =
        (answer, later.projects) := by
      obtain ⟨rfl, rfl⟩ := Prod.mk.inj h
      rfl
    have honly : ∀ found, Obtained (.answered (.patchProject id (desiredAnnotations ws)) answer ::
        deeds) found → found = ws := by
      intro found hfound
      rcases hfound.of_cons with hnow | hbefore
      · cases hnow
      · exact htells found hbefore
    exact tells_patched hpatch honly

/-- A workspace that is to be recorded is seen from an object. -/
def IsSeen : Leg RemoteSession → Prop
  | recording ws => ∃ object : Workspace, ws = object.info
  | fetching | connecting _ | looking .. | creating .. | ended _ => True

/-- A move patches the project with a workspace that is to be recorded, or leaves the projects
alone. -/
theorem Move.networked_cases
    (h : Move (NetworkedWorld.host net connect wall) config id now world leg deed next later) :
    later.projects = world.projects ∨
      ∃ ws, leg = recording ws ∧ later.projects =
        (world.projects.patch Project.annotate id (desiredAnnotations ws)).2 := by
  cases h with
  | fetch h | fetchNothing h | fetchFails h | connect h | connectFails h | look h | create h =>
    obtain ⟨-, rfl⟩ := Prod.mk.inj h
    exact .inl rfl
  | giveUp => exact .inl rfl
  | @patch ws _ _ h =>
    obtain ⟨-, rfl⟩ := Prod.mk.inj h
    exact .inr ⟨ws, rfl, rfl⟩

/-- What is to be recorded is seen from an object. -/
theorem Move.isSeen
    (h : Move (NetworkedWorld.host net connect wall) config id now world leg deed next later) :
    next.IsSeen := by
  cases next with
  | fetching | connecting | looking | creating | ended => trivial
  | recording ws =>
    rcases h.recording_cases with ⟨session, name, -, hfound⟩ | ⟨session, hgiven⟩
    · obtain ⟨hanswer, -⟩ := Prod.mk.inj hfound
      exact RemoteSession.info_of_getWorkspace hanswer
    · obtain ⟨hanswer, -⟩ := Prod.mk.inj hgiven
      exact RemoteSession.info_of_createWorkspace hanswer

/-- Addresses are recorded after a move as well: a ready phase is written only together with an
address. One case for each kind of move. -/
theorem Move.addressed
    (h : Move (NetworkedWorld.host net connect wall) config id now world leg deed next later)
    (hseen : leg.IsSeen) (hworld : world.Addressed) : later.Addressed := by
  intro j p hp
  rcases h.networked_cases with hsame | ⟨ws, rfl, hpatched⟩
  · rw [hsame] at hp
    exact hworld j p hp
  · rw [hpatched] at hp
    rcases Store.get?_of_patch hp with hold | ⟨rfl, old, -, rfl⟩
    · exact hworld j p hold
    · obtain ⟨object, rfl⟩ := hseen
      exact (Project.Describes.annotate old object.info).hasAddress

end Leg

/-! ### What others may change -/

/-- Others leave the description of the workspace of a project alone. The project may be removed,
but it is not added again. -/
def LeavesDescription {s : Type} (id : ResourceId) (old new : NetworkedWorld s) : Prop :=
  ∀ later, new.projects.objects.get? id = some later →
    ∃ p, old.projects.objects.get? id = some p ∧ Project.KeepsDescription (some p) later

/-- Others leave the descriptions of all workspaces alone. A new project has none. -/
def LeavesDescriptions {s : Type} (old new : NetworkedWorld s) : Prop :=
  ∀ id later, new.projects.objects.get? id = some later →
    Project.KeepsDescription (old.projects.objects.get? id) later

/-- Reconciles of any projects, while others leave the descriptions of the workspaces alone. -/
def describing {s : Type} (net : Network s) (connect : Exchange (Except RemoteError RemoteSession))
    (wall : Instant → Timestamp) :
    Interplay.Cast RemoteSession Unit (NetworkedWorld s) (Except Failure Action) where
  host := NetworkedWorld.host net connect wall
  MayStart a := ∃ config id deadline, a = reconcile config id deadline
  MayChange _ := LeavesDescriptions

section

variable {s : Type} {net : Network s} {connect : Exchange (Except RemoteError RemoteSession)}
  {wall : Instant → Timestamp}

/-- What is known stays known while the project keeps its description. -/
theorem Leg.Tells.of_leaves {config : Config} {id : ResourceId}
    {deeds : List (Deed RemoteSession)} {leg : Leg RemoteSession} {old new : NetworkedWorld s}
    (h : leg.Tells config id deeds old.projects.objects) (hleaves : LeavesDescription id old new) :
    leg.Tells config id deeds new.projects.objects := by
  cases leg with
  | fetching | recording => exact h
  | connecting | looking | creating =>
    refine ⟨h.1, fun later hlater => ?_⟩
    obtain ⟨p, hp, hkept⟩ := hleaves later hlater
    exact (h.2 p hp).of_keeps hkept
  | ended result =>
    cases result with
    | error e => trivial
    | ok action =>
      intro found hfound later hlater
      obtain ⟨p, hp, hkept⟩ := hleaves later hlater
      obtain ⟨hdescribes, haction⟩ := h found hfound p hp
      exact ⟨hdescribes.of_keeps hkept, haction⟩

/-- On its way a reconcile is at a leg, and what belongs to it is known. -/
theorem tells_of_passage {config : Config} {id : ResourceId} {deadline : Instant}
    {world later : NetworkedWorld s} {deeds : List (Deed RemoteSession)}
    {a : Activity RemoteSession (Except Failure Action)}
    (h : Passage (NetworkedWorld.host net connect wall) (LeavesDescription id)
      (reconcile config id deadline) world deeds a later) :
    ∃ leg : Leg RemoteSession, a = leg.rest config id deadline ∧
      leg.Tells config id deeds later.projects.objects := by
  refine Leg.exists_of_passage
    (fun deeds leg world => leg.Tells config id deeds world.projects.objects) h ?_
    (fun htells hmove => hmove.tells htells) fun htells hleaves => htells.of_leaves hleaves
  rintro found ⟨deed, hmem, -⟩
  exact absurd hmem List.not_mem_nil

/-- Where no project describes a workspace, addresses are recorded. -/
theorem addressed_of_undescribed {world : NetworkedWorld s}
    (hnone : ∀ id project, world.projects.objects.get? id = some project →
      ∀ k ∈ Annotations.workspaceKeys, project.annotations.get? k = none) : world.Addressed := by
  intro id p hp hready
  rw [hnone id p hp _ (by decide)] at hready
  cases hready

/-- Addresses are still recorded when others have left the descriptions alone. -/
theorem LeavesDescriptions.addressed {old new : NetworkedWorld s} (h : LeavesDescriptions old new)
    (hold : old.Addressed) : new.Addressed := by
  intro id later hlater hready
  have hkeeps := h id later hlater
  rw [hkeeps _ (by decide)] at hready
  obtain ⟨p, hp, hphase⟩ := Option.bind_eq_some_iff.mp hready
  obtain ⟨url, hurl, hne⟩ := hold id p hp hphase
  refine ⟨url, ?_, hne⟩
  rw [hkeeps _ (by decide), hp]
  exact hurl

/-- Reconciles, which record what is seen from objects, keep addresses recorded. -/
theorem describing_keeps (net : Network s) (connect : Exchange (Except RemoteError RemoteSession))
    (wall : Instant → Timestamp) :
    (describing net connect wall).Keeps NetworkedWorld.Addressed
      fun a => ∃ config id deadline, ∃ leg : Leg RemoteSession,
        a = leg.rest config id deadline ∧ leg.IsSeen where
  start := by
    rintro _ ⟨config, id, deadline, rfl⟩
    exact ⟨config, id, deadline, .fetching, rfl, trivial⟩
  turn := by
    rintro _ b deed world later now inTime ⟨config, id, deadline, leg, rfl, hseen⟩ hworld hturn
    obtain ⟨next, rfl, hmove⟩ := Leg.move_of_turn hturn
    exact ⟨⟨config, id, deadline, next, rfl, hmove.isSeen⟩, hmove.addressed hseen hworld⟩
  change hworld hleaves := hleaves.addressed hworld

end

/-- When a reconcile that obtained a workspace succeeds, the project records the workspace as ready
just when its object says so and has an address, the index reads just that from the project, and the
reconcile looks again unless the phase it recorded is the ready or the failed one. No project that
only reconciles describe a workspace on records it as ready without an address. -/
theorem readiness_is_agreed_on {s : Type} (net : Network s)
    (connect : Exchange (Except RemoteError RemoteSession)) (wall : Instant → Timestamp) :
    (∀ config id deadline world deeds action later,
      Passage (NetworkedWorld.host net connect wall) (LeavesDescription id)
        (reconcile config id deadline) world deeds (.done (.ok action)) later →
      ∀ ws : Workspace, Obtained deeds ws.info →
      ∀ project, later.projects.objects.get? id = some project →
        let phase := project.annotations.get? Annotations.workspacePhase
        (project.readyWorkspace? = some ws.metadata.nameAny ↔ ws.IsUsable) ∧
          (project.readyWorkspace?.isSome = true ↔ ws.IsUsable) ∧
          (phase = some "Ready" ↔ ws.IsUsable) ∧
          action = if phase = some "Ready" ∨ phase = some "Failed" then .done
            else .requeue config.pollInterval) ∧
      ∀ world t,
        (∀ id project, world.projects.objects.get? id = some project →
          ∀ k ∈ Annotations.workspaceKeys, project.annotations.get? k = none) →
        Interplay.Reachable (describing net connect wall) world t →
        ∀ id project, t.world.projects.objects.get? id = some project → project.HasAddress := by
  constructor
  · intro config id deadline world deeds action later hpassage ws hobtained project hproject phase
    obtain ⟨leg, hleg, htells⟩ := tells_of_passage hpassage
    obtain rfl := Leg.eq_ended_of_rest hleg.symm
    obtain ⟨hdescribes, haction⟩ := htells ws.info hobtained project hproject
    have hphase : phase = some (recordedPhase ws.info).text := hdescribes.phase
    have hready : phase = some "Ready" ↔ ws.IsUsable := by
      rw [hphase, Option.some.injEq, recordedPhase_text_iff]
    have hindex : ∀ w, project.readyWorkspace? = some w ↔
        ws.IsUsable ∧ ws.metadata.nameAny = w := by
      intro w
      rw [Project.readyWorkspace?_eq_some_iff, ← hready, hdescribes.name, Option.some.injEq]
      rfl
    refine ⟨by simp [hindex], by simp [Option.isSome_iff_exists, hindex], hready, ?_⟩
    rw [haction, Leg.actionOf, get?_desiredAnnotations_phase, Phase.ofText?, actionFor_ofText,
      hphase]
    simp only [Option.some.injEq]
  · intro world t hnone hreachable
    exact (hreachable.keeps (describing_keeps net connect wall) (addressed_of_undescribed hnone)).1

/-! ### A workspace that is ready at once -/

/-- A workspace object that says that it is ready, and has an address. -/
def readyZot : Workspace where
  metadata := { name := some "zot" }
  spec := { url := some "https://kcp.test/clusters/root:zot" }
  status := some ⟨some "Ready"⟩

/-- A new project, and a control plane that replies with the object. -/
def welcoming : NetworkedWorld (List Reply) where
  network := [.ofJson 201 readyZot.toJson]
  projects := newProjects ["zot"]

/-- The project as it is at first, when nothing is recorded on it. -/
def newZot : Project := .edit none (projectNamed "zot") .empty

/-- The host of the world, in which all sessions are the same. -/
def welcomingHost : Host RemoteSession (NetworkedWorld (List Reply)) :=
  NetworkedWorld.host (.scripted .epoch) (.done (.ok BindingUpdate.rootSession)) fun _ => .epoch

/-- The object is understood when it is replied, which is checked by running the decoder on its
text. -/
theorem decode_readyZot :
    (Reply.ofJson 201 readyZot.toJson).decode Workspace.ofJson? = .ok readyZot := by
  have hworded : Json.IsWorded 4 readyZot.toJson :=
    Workspace.isWorded_toJson (ObjectMeta.isWorded_toJson rfl rfl rfl)
  exact Reply.decode_ofJson hworded (by decide) rfl rfl

/-- The object is given to the project by the one reply that the network has for its request. -/
theorem createWorkspace_welcoming (clock : Clock) :
    welcomingHost.answer (.createWorkspace BindingUpdate.rootSession "zot" "zot") clock welcoming =
      (.ok readyZot.info, { welcoming with network := [] }) := by
  have hcreate : (BindingUpdate.rootSession.workspaces.create
      (BindingUpdate.rootSession.newWorkspace "zot" "zot").toJson).run (.scripted .epoch)
      welcoming.network = (.ok readyZot, []) := by
    rw [← decode_readyZot]
    rfl
  have hrun : (BindingUpdate.rootSession.createWorkspace "zot" "zot").run (.scripted .epoch)
      welcoming.network = (.ok readyZot.info, []) := by
    rw [RemoteSession.createWorkspace, Exchange.map, Exchange.run_bind, Exchange.run_bind, hcreate]
    rfl
  show (_, _) = _
  rw [hrun]

/-- The new project records the object as ready, the index reads that, and nothing else is to be
done. However the reconciles go on, it will have an address. -/
theorem zot_is_agreed_to_be_ready :
    (∃ deeds action later project,
      Passage welcomingHost (LeavesDescription (projectNamed "zot"))
        (reconcile .standard (projectNamed "zot") 1000) welcoming deeds (.done (.ok action)) later ∧
      later.projects.objects.get? (projectNamed "zot") = some project ∧
      project.readyWorkspace? = some "zot" ∧ action = .done) ∧
      ∀ t, Interplay.Reachable (describing (.scripted .epoch)
          (.done (.ok BindingUpdate.rootSession)) fun _ => .epoch) welcoming t →
        ∀ id project, t.world.projects.objects.get? id = some project → project.HasAddress := by
  have hagreed := readiness_is_agreed_on (.scripted .epoch)
    (.done (.ok BindingUpdate.rootSession)) fun _ => .epoch
  constructor
  · have hfetch : Leg.Move welcomingHost .standard (projectNamed "zot") 0 welcoming .fetching
        (.answered (.getProject (projectNamed "zot")) (.ok (some newZot)))
        (.connecting newZot.annotations) welcoming := .fetch rfl
    have hconnect : Leg.Move welcomingHost .standard (projectNamed "zot") 0 welcoming
        (.connecting newZot.annotations) (.answered .connect (.ok BindingUpdate.rootSession))
        (.creating BindingUpdate.rootSession newZot.annotations) welcoming := .connect rfl
    have hcreate : Leg.Move welcomingHost .standard (projectNamed "zot") 0 welcoming
        (.creating BindingUpdate.rootSession newZot.annotations)
        (.answered (.createWorkspace BindingUpdate.rootSession "zot" "zot") (.ok readyZot.info))
        (.recording readyZot.info) { welcoming with network := [] } :=
      .create (createWorkspace_welcoming _)
    have hpatch : Leg.Move welcomingHost .standard (projectNamed "zot") 0
        { welcoming with network := [] } (.recording readyZot.info)
        (.answered (.patchProject (projectNamed "zot") (desiredAnnotations readyZot.info))
          (.ok true))
        (.ended (.ok (Leg.actionOf .standard readyZot.info)))
        { welcoming with
          network := []
          projects := (welcoming.projects.patch Project.annotate (projectNamed "zot")
            (desiredAnnotations readyZot.info)).2 } := .patch rfl
    have hstart : Passage welcomingHost (LeavesDescription (projectNamed "zot"))
        (reconcile .standard (projectNamed "zot") 1000) welcoming []
        (reconcile .standard (projectNamed "zot") 1000) welcoming := .start
    have hpassage := (((hstart.turn 0 true (hfetch.turn nofun 1000)).turn 0 true
      (hconnect.turn nofun 1000)).turn 0 true (hcreate.turn nofun 1000)).turn 0 true
      (hpatch.turn nofun 1000)
    have husable : readyZot.IsUsable := ⟨rfl, _, rfl, by decide⟩
    obtain ⟨hindex, -, hphase, haction⟩ := hagreed.1 _ _ _ _ _ _ _ hpassage readyZot
      ⟨_, List.mem_cons_of_mem _ List.mem_cons_self,
        .created BindingUpdate.rootSession "zot" "zot" _⟩
      (newZot.annotate (desiredAnnotations readyZot.info)) rfl
    refine ⟨_, _, _, _, hpassage, rfl, hindex.mpr husable, ?_⟩
    rw [haction, if_pos (.inl (hphase.mpr husable))]
  · refine fun t => hagreed.2 welcoming t fun id project hproject => ?_
    have hall : ∀ e ∈ welcoming.projects.objects.entries, ∀ k ∈ Annotations.workspaceKeys,
        e.2.annotations.get? k = none := by decide
    exact hall _ (SortedMap.mem_entries_iff.mpr hproject)

end Lifecycle

end WorkspaceAccess
