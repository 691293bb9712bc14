import WorkspaceAccess.Proofs.Reconcile.Interplay
import WorkspaceAccess.Proofs.Workspace.Footprint

/-!
# Workspaces Are Provisioned Once

Any number of reconciles of any projects share a world in memory, and any of them may stop anywhere.
Nobody else touches the workspaces; the projects, the faults and everything else may be changed at
any time.

Workspaces are only added, by requests that are counted, and a workspace that is to be recorded on a
project stays what it was when it was obtained. Which project a reconcile is about is known from the
log, as it looks the project up first (`FoundProject`).

The invariant compares the control plane with what it was at the start (`Provisioned`). All that was
there is there as it was; what was not there before was added for a project that was found, under
the name that is derived from it, with the mark of this controller and the project as its owner; and
there are as many of these as requests were counted. Each reconcile on its way carries what is known
of it by its leg (`Leg.Knows`), in particular that the workspace in its hand is kept under its name
and serves the project. Two reconciles of projects whose names derive the same workspace name may
both ask for it: the second one finds it, and is refused.

## Main results

* `length_addedSince_of_insert`: a workspace under a new name is one more.
* `Leg.Move.keeps`, `Leg.Move.knows`: a move keeps the workspaces that are there, and what is known
  of the reconcile.
* `Leg.Move.serves_of_patch`: a project is only ever asked to record a workspace that serves it.
* `Provisioned.did`, `provisioned`: what has become of the workspaces is known throughout.
* `workspaces_are_provisioned_once`: all of it, for every interleaving.
* `colliding_projects_are_provisioned_once`: two projects that derive the same name.
-/

namespace WorkspaceAccess

namespace InMemory

/-- The workspaces that were not there before, by their names and in order. -/
def addedSince (old new : InMemory) : List String :=
  new.workspaces.keys.filter fun k => !old.workspaces.contains k

/-- All workspaces that were there stay as they were; others may be added. -/
def Keeps (old new : InMemory) : Prop :=
  ∀ k ws, old.workspaces.get? k = some ws → new.workspaces.get? k = some ws

/-- Where the workspaces are the same all of them stay. -/
theorem Keeps.of_same {old new : InMemory} (h : new.workspaces = old.workspaces) :
    old.Keeps new := by
  rw [Keeps, h]
  exact fun _ _ hget => hget

/-- A workspace under a new name is one more. -/
theorem length_addedSince_of_insert {before old new : InMemory} {k : String} {ws : WorkspaceInfo}
    (hkeeps : before.Keeps old) (hnone : old.workspaces.get? k = none)
    (hadded : new.workspaces = old.workspaces.insert k ws) :
    (before.addedSince new).length = (before.addedSince old).length + 1 := by
  have hnew : before.workspaces.contains k = false := by
    rw [SortedMap.contains_eq_false_iff, Option.eq_none_iff_forall_ne_some]
    intro found hfound
    rw [hkeeps k found hfound] at hnone
    cases hnone
  rw [addedSince, hadded, ((SortedMap.keys_insert_perm hnone ws).filter _).length_eq,
    List.filter_cons_of_pos (by rw [hnew]; rfl)]
  rfl

end InMemory

namespace Lifecycle

/-! ### Who takes part -/

/-- Reconciles of any projects, while others change what they may. -/
def provisioning (wall : Instant → Timestamp) (MayChange : World → World → Prop) :
    Interplay.Cast Unit Unit World (Except Failure Action) where
  host := World.host wall
  MayStart a := ∃ config id deadline, a = reconcile config id deadline
  MayChange _ := MayChange

/-- Others change anything but the workspaces. -/
structure LeavesWorkspaces (old new : World) : Prop where
  /-- The workspaces are the same, in every respect. -/
  workspaces : new.remote.workspaces = old.remote.workspaces
  /-- Nothing more was created on request. -/
  creates : new.remote.creates = old.remote.creates

/-- Reconciles that share a world. -/
abbrev Provisioning := Interplay Unit Unit World (Except Failure Action)

/-- What happened to reconciles that share a world. -/
abbrev ProvisioningLog := List (Occurrence Unit Unit)

/-- A reconcile looked a project up, and it was there. -/
def FoundProject (id : ResourceId) (log : ProvisioningLog) : Prop :=
  ∃ i project, .did i (.answered (.getProject id) (.ok (some project))) ∈ log

/-- A workspace is kept under its name and serves a project. -/
def Serves (r : InMemory) (id : ResourceId) (ws : WorkspaceInfo) : Prop :=
  r.workspaces.get? ws.name = some ws ∧ ws.MayServe id.name

/-! ### What is known on a leg -/

/-- What is known of a reconcile by its leg. -/
def Leg.Knows (id : ResourceId) (log : ProvisioningLog) (r : InMemory) : Leg Unit → Prop
  | fetching | ended _ => True
  | connecting _ | looking _ _ _ | creating _ _ => FoundProject id log
  | recording ws => Serves r id ws

variable {id : ResourceId} {log : ProvisioningLog} {before old new : InMemory}
  {e : Occurrence Unit Unit}

/-- A project that was found was found, whatever happens next. -/
theorem FoundProject.cons (h : FoundProject id log) (e : Occurrence Unit Unit) :
    FoundProject id (e :: log) := by
  obtain ⟨i, project, hfound⟩ := h
  exact ⟨i, project, List.mem_cons_of_mem e hfound⟩

/-- A workspace that serves a project serves it while workspaces are only added. -/
theorem Serves.mono {ws : WorkspaceInfo} (h : Serves old id ws) (hkeeps : old.Keeps new) :
    Serves new id ws := ⟨hkeeps _ _ h.1, h.2⟩

/-- What is known stays known while workspaces are only added. -/
theorem Leg.Knows.mono {leg : Leg Unit} (h : leg.Knows id log old) (hkeeps : old.Keeps new)
    (e : Occurrence Unit Unit) : leg.Knows id (e :: log) new := by
  cases leg with
  | fetching | ended => trivial
  | connecting | looking | creating => exact FoundProject.cons h e
  | recording => exact Serves.mono h hkeeps

section

variable {wall : Instant → Timestamp} {config : Config} {now : Instant} {world later : World}
  {leg next : Leg Unit} {deed : Deed Unit} {i : Nat}

/-- A move of a reconcile keeps the workspaces that are there. -/
theorem Leg.Move.keeps
    (h : Leg.Move (World.host wall) config id now world leg deed next later) :
    world.remote.Keeps later.remote := by
  intro k ws hget
  rcases h.remote_cases with hsame | ⟨hnone, -, hadded, -⟩
  · rw [hsame]
    exact hget
  · rw [hadded, SortedMap.get?_insert_of_ne]
    · exact hget
    · rintro rfl
      rw [hnone] at hget
      cases hget

/-- A move of a reconcile keeps the workspaces under their names. -/
theorem Leg.Move.wellNamed (hnamed : world.remote.WellNamed)
    (h : Leg.Move (World.host wall) config id now world leg deed next later) :
    later.remote.WellNamed := by
  rcases h.remote_cases with hsame | ⟨-, -, hadded, -⟩
  · rw [hsame]
    exact hnamed
  · exact hnamed.insert (InMemory.requested (workspaceName id.name) id.name) hadded

/-- Of a workspace that was obtained is known what holds if it is to be recorded. -/
theorem Leg.knows_obtained {current : Annotations} {answer : Except RemoteError WorkspaceInfo}
    {r : InMemory}
    (h : ∀ ws, (obtained config current answer : Leg Unit) = recording ws → Serves r id ws) :
    (obtained config current answer : Leg Unit).Knows id log r := by
  cases answer with
  | error e => trivial
  | ok ws =>
    by_cases hrecorded : isRecorded (desiredAnnotations ws) current
    · rw [show obtained config current (.ok ws) = _ from if_pos hrecorded]
      trivial
    · have hrecording : (obtained config current (.ok ws) : Leg Unit) = recording ws :=
        if_neg hrecorded
      rw [hrecording]
      exact h ws hrecording

/-- What is known of a reconcile is kept by its moves. -/
theorem Leg.Move.knows (hnamed : world.remote.WellNamed) (hknows : leg.Knows id log world.remote)
    (h : Leg.Move (World.host wall) config id now world leg deed next later) :
    next.Knows id (.did i deed :: log) later.remote := by
  have hserves : ∀ ws, next = recording ws → Serves later.remote id ws := by
    rintro ws rfl
    exact h.serves hnamed
  cases h with
  | fetchNothing | fetchFails | connectFails | giveUp => trivial
  | @fetch project => exact ⟨i, project, List.mem_cons_self⟩
  | @connect current =>
    have hfound := FoundProject.cons hknows (.did i (.answered .connect (.ok ())))
    rw [connected]
    split <;> exact hfound
  | @look _ current name answer =>
    rcases answer with e | ⟨_ | found⟩
    · trivial
    · exact FoundProject.cons hknows _
    · exact knows_obtained hserves
  | create => exact knows_obtained hserves
  | @patch _ answer => cases answer <;> trivial

/-- A project is only ever asked to record a workspace that serves it. -/
theorem Leg.Move.serves_of_patch {j : ResourceId} {annotations : Annotations}
    {answer : (Call.patchProject j annotations : Call Unit).Answer}
    (hknows : leg.Knows id log world.remote)
    (h : Leg.Move (World.host wall) config id now world leg
      (.answered (.patchProject j annotations) answer) next later) :
    ∃ ws, annotations = desiredAnnotations ws ∧ Serves later.remote j ws := by
  have hkeeps := h.keeps
  generalize hdeed : Deed.answered (.patchProject j annotations) answer = deed at h
  cases h with
  | @patch ws =>
    cases hdeed
    exact ⟨ws, rfl, Serves.mono hknows hkeeps⟩
  | fetch | fetchNothing | fetchFails | connect | connectFails | look | create | giveUp =>
    cases hdeed

end

/-! ### What is known of all of them -/

/-- A reconcile is at a leg, and what belongs to it is known. -/
def OnItsWay (log : ProvisioningLog) (r : InMemory) (a : Activity Unit (Except Failure Action)) :
    Prop :=
  ∃ config id deadline leg, a = Leg.rest config id deadline leg ∧ leg.Knows id log r

/-- A reconcile on its way stays there while workspaces are only added. -/
theorem OnItsWay.mono {a : Activity Unit (Except Failure Action)} (h : OnItsWay log old a)
    (hkeeps : old.Keeps new) (e : Occurrence Unit Unit) : OnItsWay (e :: log) new a := by
  obtain ⟨config, id, deadline, leg, rfl, hknows⟩ := h
  exact ⟨config, id, deadline, leg, rfl, hknows.mono hkeeps e⟩

/-- A workspace was added for a project that was found. -/
def AddedFor (k : String) (ws : WorkspaceInfo) (log : ProvisioningLog) : Prop :=
  ∃ id, FoundProject id log ∧ k = workspaceName id.name ∧ ws.managed = true ∧
    ws.project = some id.name

/-- What has become of the workspaces since a start. -/
structure Provisioned (before : InMemory) (s : Provisioning) : Prop where
  /-- The workspaces are kept under their own names. -/
  named : s.world.remote.WellNamed
  /-- All reconciles are on their way, each knowing what it was answered. -/
  reconciles : Interplay.Each (fun _ => OnItsWay s.log s.world.remote) s.activities
  /-- All that were there stay as they were. -/
  kept : before.Keeps s.world.remote
  /-- All others were added for projects that were found. -/
  added : ∀ k ws, before.workspaces.get? k = none → s.world.remote.workspaces.get? k = some ws →
    AddedFor k ws s.log
  /-- Each workspace that was added was counted as created on request. -/
  counted : s.world.remote.creates = before.creates + (before.addedSince s.world.remote).length
  /-- Projects were asked to record workspaces that serve them. -/
  recorded : ∀ i id annotations (answer : (Call.patchProject id annotations : Call Unit).Answer),
    .did i (.answered (.patchProject id annotations) answer) ∈ s.log →
    ∃ ws, annotations = desiredAnnotations ws ∧ Serves s.world.remote id ws

namespace Provisioned

variable {s : Provisioning} {wall : Instant → Timestamp} {world : World}

/-- Nothing is added yet when nothing has happened, so all is accounted for. -/
theorem initial (hnamed : world.remote.WellNamed) : Provisioned world.remote { world } where
  named := hnamed
  reconciles := nofun
  kept _ _ h := h
  added k ws hnone hsome := by
    rw [hnone] at hsome
    cases hsome
  counted := by
    have hnothing : world.remote.addedSince world.remote = [] := by
      rw [InMemory.addedSince, List.filter_eq_nil_iff]
      intro k hk
      simp [SortedMap.mem_keys_iff.mp hk]
    rw [hnothing]
    rfl
  recorded := nofun

/-- While no reconcile takes a turn, and others leave the workspaces alone, nothing becomes of
them. -/
theorem of_same (h : Provisioned before s) {t : Provisioning} {e : Occurrence Unit Unit}
    (hlog : t.log = e :: s.log) (he : ∀ i deed, e ≠ .did i deed)
    (hworkspaces : t.world.remote.workspaces = s.world.remote.workspaces)
    (hcreates : t.world.remote.creates = s.world.remote.creates)
    (hreconciles : Interplay.Each (fun _ => OnItsWay t.log t.world.remote) t.activities) :
    Provisioned before t where
  named := h.named.of_same hworkspaces
  reconciles := hreconciles
  kept := by
    rw [InMemory.Keeps, hworkspaces]
    exact h.kept
  added k ws hnone hsome := by
    rw [hworkspaces] at hsome
    obtain ⟨id, hfound, hname⟩ := h.added k ws hnone hsome
    exact ⟨id, hlog ▸ hfound.cons e, hname⟩
  counted := by
    rw [hcreates, InMemory.addedSince, hworkspaces]
    exact h.counted
  recorded i id annotations answer hmem := by
    rw [hlog] at hmem
    rcases List.mem_cons.mp hmem with hnew | hold
    · exact absurd hnew.symm (he i _)
    · obtain ⟨ws, hws, hserves⟩ := h.recorded i id annotations answer hold
      exact ⟨ws, hws, hserves.mono (.of_same hworkspaces)⟩

/-- A reconcile is started. It has asked for nothing yet. -/
theorem start (h : Provisioned before s) (config : Config) (id : ResourceId)
    (deadline : Instant) : Provisioned before (s.start (reconcile config id deadline)) := by
  have hothers := h.reconciles.imp fun _ _ ha =>
    ha.mono (.of_same rfl) (.started s.activities.length)
  have hnew : OnItsWay (.started s.activities.length :: s.log) s.world.remote
      (reconcile config id deadline) := ⟨config, id, deadline, .fetching, rfl, trivial⟩
  exact h.of_same (e := .started s.activities.length) rfl (fun _ _ h => by cases h) rfl rfl
    (hothers.concat hnew)

/-- Others change something that touches neither the workspaces nor their count. -/
theorem change (h : Provisioned before s) (kind : Unit)
    (hworkspaces : world.remote.workspaces = s.world.remote.workspaces)
    (hcreates : world.remote.creates = s.world.remote.creates) :
    Provisioned before (s.change kind world) := by
  have hothers := h.reconciles.imp fun _ _ ha => ha.mono (.of_same hworkspaces) (.changed kind)
  exact h.of_same (e := .changed kind) rfl (fun _ _ h => by cases h) hworkspaces hcreates hothers

/-- A reconcile makes a move, and what it adds is accounted for by its deed. One case for each kind
of move. -/
theorem did (h : Provisioned before s) {config : Config} {id : ResourceId}
    {deadline now : Instant} {leg next : Leg Unit} {deed : Deed Unit} {later : World} {i : Nat}
    (hknows : leg.Knows id s.log s.world.remote)
    (hmove : Leg.Move (World.host wall) config id now s.world leg deed next later) :
    Provisioned before { world := later
                         activities := s.activities.set i (next.rest config id deadline)
                         log := .did i deed :: s.log } where
  named := hmove.wellNamed h.named
  reconciles := by
    refine Interplay.Each.set ?_ ⟨config, id, deadline, next, rfl, hmove.knows h.named hknows⟩
    exact h.reconciles.imp fun _ _ ha => ha.mono hmove.keeps _
  kept k ws hget := hmove.keeps k ws (h.kept k ws hget)
  added k ws hnone hsome := by
    rcases hmove.remote_cases with hsame | ⟨-, ⟨current, rfl⟩, hadded, -⟩
    · have hsome : s.world.remote.workspaces.get? k = some ws := hsame ▸ hsome
      obtain ⟨j, hfound, hname⟩ := h.added k ws hnone hsome
      exact ⟨j, hfound.cons _, hname⟩
    · have hsome : later.remote.workspaces.get? k = some ws := hsome
      rw [hadded, SortedMap.get?_insert] at hsome
      split at hsome
      · obtain rfl := Option.some.inj hsome
        exact ⟨id, FoundProject.cons hknows _, KeyOrder.compare_eq_iff.mp ‹_›, rfl, rfl⟩
      · obtain ⟨j, hfound, hname⟩ := h.added k ws hnone hsome
        exact ⟨j, hfound.cons _, hname⟩
  counted := by
    rcases hmove.remote_cases with hsame | ⟨hnone, -, hadded, hcreates⟩
    · rw [hsame]
      exact h.counted
    · show later.remote.creates = _ + (before.addedSince later.remote).length
      rw [hcreates, h.counted, InMemory.length_addedSince_of_insert h.kept hnone hadded,
        Nat.add_assoc]
  recorded j k annotations answer hmem := by
    rcases List.mem_cons.mp hmem with hnew | hold
    · cases hnew
      exact hmove.serves_of_patch hknows
    · obtain ⟨ws, hws, hserves⟩ := h.recorded j k annotations answer hold
      exact ⟨ws, hws, hserves.mono hmove.keeps⟩

/-- A reconcile takes a turn, which adds one workspace at most. -/
theorem turn (h : Provisioned before s) (i : Nat) (now : Instant) (inTime : Bool) :
    Provisioned before (s.turn (World.host wall) i now inTime) := by
  rcases Interplay.turn_cases (World.host wall) i now inTime s with
    hsame | ⟨a, b, deed, later, hi, hturn, hnext⟩
  · rw [hsame]
    exact h
  · obtain ⟨config, id, deadline, leg, rfl, hknows⟩ := h.reconciles i a hi
    obtain ⟨next, rfl, hmove⟩ := Leg.move_of_turn hturn
    rw [hnext]
    exact h.did hknows hmove

end Provisioned

/-- What has become of the workspaces is known throughout. -/
theorem provisioned {wall : Instant → Timestamp} {world : World} {s : Provisioning}
    (hnamed : world.remote.WellNamed)
    (h : Interplay.Reachable (provisioning wall LeavesWorkspaces) world s) :
    Provisioned world.remote s := by
  induction h with
  | initial => exact .initial hnamed
  | next _ step ih =>
    cases step with
    | start ha =>
      obtain ⟨config, id, deadline, rfl⟩ := ha
      exact ih.start config id deadline
    | turn i now inTime => exact ih.turn i now inTime
    | change hchange => exact ih.change _ hchange.workspaces hchange.creates

/-- Whatever reconciles of projects have done, the workspaces that were there are as they were. All
others belong to projects that were found, under the names derived from theirs, and each of them was
counted. No project was ever asked to record a workspace that belongs to another one. -/
theorem workspaces_are_provisioned_once {wall : Instant → Timestamp} {world : World}
    {s : Provisioning} (hnamed : world.remote.WellNamed)
    (h : Interplay.Reachable (provisioning wall LeavesWorkspaces) world s) :
    (∀ k ws, world.remote.workspaces.get? k = some ws →
      s.world.remote.workspaces.get? k = some ws) ∧
    (∀ k ws, world.remote.workspaces.get? k = none →
      s.world.remote.workspaces.get? k = some ws →
      ∃ id, FoundProject id s.log ∧ k = workspaceName id.name ∧ ws.managed = true ∧
        ws.project = some id.name) ∧
    s.world.remote.creates =
      world.remote.creates + (world.remote.addedSince s.world.remote).length ∧
    (∀ i id annotations (answer : (Call.patchProject id annotations : Call Unit).Answer),
      .did i (.answered (.patchProject id annotations) answer) ∈ s.log →
      ∃ ws, annotations = desiredAnnotations ws ∧
        s.world.remote.workspaces.get? ws.name = some ws ∧
        (ws.project = none ∨ ws.project = some id.name)) := by
  have hprovisioned := provisioned hnamed h
  exact ⟨hprovisioned.kept, hprovisioned.added, hprovisioned.counted, hprovisioned.recorded⟩

/-! ### Two projects whose names collide -/

/-- A project of a name, in the one namespace of the runs below. -/
def projectNamed (name : String) : ResourceId := ⟨"maintainerd", name⟩

/-- New projects of these names, with nothing recorded on them. -/
def newProjects (names : List String) : Store Project where
  objects := .ofList (names.map fun name =>
    (projectNamed name, .edit none (projectNamed name) .empty))

/-- Two projects that derive the same name, and a workspace of someone else. -/
def collidingNames : World where
  remote := InMemory.addWorkspace { sourceNamespace := "maintainerd" } "tuf" .ready true
  projects := newProjects ["k8s.io", "k8s-io"]

/-- Two reconciles of the projects overlap, and a third one comes later. -/
def collidingReconciles : Provisioning :=
  let host := World.host fun _ => .epoch
  let first := reconcile .standard (projectNamed "k8s.io") 1000
  let second := reconcile .standard (projectNamed "k8s-io") 1000
  let both := (Interplay.start { world := collidingNames } first).start second
  ((both.run host 0 0 2).run host 1 0 3 |>.run host 0 0 2).start second |>.run host 2 0 4

/-- The workspace of someone else is kept under its name. -/
theorem wellNamed_collidingNames : collidingNames.remote.WellNamed :=
  (InMemory.Built.new "maintainerd").add "tuf" .ready true |>.wellNamed

/-- The three reconciles come about by starts and turns. -/
theorem reachable_collidingReconciles :
    Interplay.Reachable (provisioning (fun _ => .epoch) LeavesWorkspaces) collidingNames
      collidingReconciles := by
  have hstart : ∀ name, (provisioning (fun _ => .epoch) LeavesWorkspaces).MayStart
      (reconcile .standard (projectNamed name) 1000) := fun name => ⟨_, _, _, rfl⟩
  have hinitial : Interplay.Reachable (provisioning (fun _ => .epoch) LeavesWorkspaces)
      collidingNames { world := collidingNames } := .initial
  have hboth := (hinitial.next (.start _ (hstart "k8s.io"))).next (.start _ (hstart "k8s-io"))
  exact ((((hboth.run 0 0 2).run 1 0 3).run 0 0 2).next (.start _ (hstart "k8s-io"))).run 2 0 4

/-- The workspace was added once, for the project that came first. -/
theorem colliding_projects_are_provisioned_once :
    collidingNames.remote.WellNamed ∧
      Interplay.Reachable (provisioning (fun _ => .epoch) LeavesWorkspaces) collidingNames
        collidingReconciles ∧
      collidingNames.remote.addedSince collidingReconciles.world.remote = ["k8s-io"] ∧
      collidingReconciles.world.remote.creates = 1 := by
  obtain ⟨-, -, hcounted, -⟩ :=
    workspaces_are_provisioned_once wellNamed_collidingNames reachable_collidingReconciles
  have hadded : collidingNames.remote.addedSince collidingReconciles.world.remote = ["k8s-io"] := by
    decide
  refine ⟨wellNamed_collidingNames, reachable_collidingReconciles, hadded, ?_⟩
  rw [hcounted, hadded]
  rfl

end Lifecycle

end WorkspaceAccess
