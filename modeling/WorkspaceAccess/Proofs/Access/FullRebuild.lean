import WorkspaceAccess.Proofs.Access.Accounting
import WorkspaceAccess.Proofs.Access.Overlap
import WorkspaceAccess.Proofs.Access.Reading

/-!
# What a Sweep Leaves Behind

A sweep that no one disturbs, on a control plane in memory. It rebuilds the binding of every managed
workspace that is ready from the roster, and leaves everything else alone: the bindings of other
workspaces, those of the workspaces that it reports as failures, and the counts of their writes.

The control plane keeps every workspace under its own name (`InMemory.WellNamed`), as all that its
operations build does (`InMemory.Built.wellNamed`). So no workspace is listed twice, and one round
decides what becomes of a binding. Without that a later round could rebuild what an earlier one has
rebuilt, and a write would be counted twice.

What is said of a single binding is `InMemory.Rebuilds` or `InMemory.LeavesAlone`. The former gives
the binding that is there afterwards by its name, its subjects, the count that it carries, and all
that a rebuild keeps of the old one; the latter says that neither the binding nor the count of its
writes has changed. The two compose, so that a statement about one round becomes one about all
rounds by induction on them.

## Main results

* `Built.wellNamed`: every operation keeps the workspaces under their names.
* `WellNamed.mem_targetNames`, `WellNamed.nodup_targetNames`: the workspaces that can receive a
  binding are listed, each once.
* `rebuilds_of_writeBinding`: a binding that is written is rebuilt, and all others are left alone.
* `Rounds.rebuilds`: the verdict on a workspace that is listed once is what becomes of its binding.
* `Rounds.rebuildsAllBut`: the rounds over all targets rebuild all but the failures.
* `a_sweep_rebuilds_exactly_the_targets`: the same for a whole sweep that succeeds or that fails on
  some workspaces, for every roster, trigger, deadline and start.
* `neighbourhood_is_rebuilt`: a sweep among workspaces that are no targets.
-/

namespace WorkspaceAccess

/-! ### Names of workspaces -/

namespace InMemory

/-- Every workspace is kept under its own name, so that the names of a listing are keys. -/
def WellNamed (r : InMemory) : Prop := ∀ k ws, r.workspaces.get? k = some ws → ws.name = k

/-- Keeping one more workspace under its name keeps all of them so. -/
theorem WellNamed.insert {r : InMemory} (h : r.WellNamed) (ws : WorkspaceInfo) {later : InMemory}
    (hlater : later.workspaces = r.workspaces.insert ws.name ws) : later.WellNamed := by
  intro k found hfound
  rw [hlater, SortedMap.get?_insert] at hfound
  split at hfound
  · rename_i hk
    rw [KeyOrder.compare_eq_iff.mp hk, ← Option.some.inj hfound]
  · exact h k found hfound

/-- Whatever else of the control plane changes, while the workspaces do not, they are kept under
their names. -/
theorem WellNamed.of_same {r later : InMemory} (h : r.WellNamed)
    (hsame : later.workspaces = r.workspaces) : later.WellNamed := by
  rw [WellNamed, hsame]
  exact h

/-- What the operations make of an empty control plane. -/
inductive Built : InMemory → Prop
  /-- Nothing has happened yet, and there are no workspaces. -/
  | new (sourceNamespace : String) : Built { sourceNamespace }
  /-- A workspace is requested for a project. -/
  | create {r : InMemory} (h : Built r) (name project : String) :
      Built (r.createWorkspace name project).2
  /-- The binding of a workspace is written for some subjects. -/
  | write {r : InMemory} (h : Built r) (w : String) (subjects : List String) (now : Timestamp) :
      Built (r.writeBinding w subjects now).2
  /-- A workspace is added by someone else, under its name. -/
  | add {r : InMemory} (h : Built r) (name : String) (phase : Phase) (managed : Bool) :
      Built (r.addWorkspace name phase managed)
  /-- A workspace that is there comes to another phase or address. -/
  | phase {r : InMemory} (h : Built r) (name : String) (phase : Phase) (url : Option String) :
      Built (r.setPhase name phase url)
  /-- A binding is put into a workspace by someone else. -/
  | bind {r : InMemory} (h : Built r) (w : String) (b : ClusterRoleBinding) :
      Built (r.setBinding w b)
  /-- The binding of a workspace fails to be written, or not. -/
  | fail {r : InMemory} (h : Built r) (w : String) (fails : Bool) : Built (r.setFailing w fails)
  /-- The faults of the whole control plane come and go. -/
  | faults {r : InMemory} (h : Built r) (unreachable misconfigured : Bool) :
      Built { r with unreachable, misconfigured }

/-- Every operation keeps the workspaces under their names, by induction on how the control plane
was built. -/
theorem Built.wellNamed {r : InMemory} (h : Built r) : r.WellNamed := by
  induction h with
  | new sourceNamespace => exact fun _ _ h => by cases h
  | create _ name project ih =>
    rw [createWorkspace]
    split
    · exact ih
    split
    · exact ih
    · exact ih.insert (requested name project) rfl
  | @write r _ w subjects now ih =>
    rcases r.writeBinding_cases w subjects now with ⟨e, hfails⟩ | hwrites
    · rw [hfails]
      exact ih
    · rw [hwrites]
      exact ih.of_same rfl
  | add _ name phase managed ih =>
    exact ih.insert ⟨name, phase, some (urlOf name), managed, none⟩ rfl
  | phase _ name phase url ih =>
    rw [setPhase]
    split
    · rename_i ws hws
      obtain rfl := ih name ws hws
      exact ih.insert { ws with phase, url } rfl
    · exact ih
  | bind _ _ _ ih | fail _ _ _ ih | faults _ _ _ ih => exact ih.of_same rfl

/-- The workspace can receive a binding: it is managed and ready. -/
def IsTarget (r : InMemory) (k : String) : Prop :=
  ∃ ws, r.workspaces.get? k = some ws ∧ ws.isTarget = true

/-- The workspaces that can receive a binding, as they are listed. -/
def targetNames (r : InMemory) : List String :=
  (WorkspaceInfo.targets r.workspaces.values).map (·.name)

/-- The workspaces that can receive a binding are listed. -/
theorem WellNamed.mem_targetNames {r : InMemory} (h : r.WellNamed) {k : String} :
    k ∈ r.targetNames ↔ r.IsTarget k := by
  constructor
  · intro hk
    obtain ⟨ws, hws, rfl⟩ := List.mem_map.mp hk
    obtain ⟨hmem, htarget⟩ := List.mem_filter.mp hws
    obtain ⟨j, hget⟩ := SortedMap.exists_get?_of_mem_values hmem
    obtain rfl := h j ws hget
    exact ⟨ws, hget, htarget⟩
  · rintro ⟨ws, hget, htarget⟩
    obtain rfl := h k ws hget
    have hmem : ws ∈ r.workspaces.values :=
      List.mem_map.mpr ⟨(ws.name, ws), SortedMap.mem_entries_iff.mpr hget, rfl⟩
    exact List.mem_map.mpr ⟨ws, List.mem_filter.mpr ⟨hmem, htarget⟩, rfl⟩

/-- No workspace is listed twice, since keys occur once. -/
theorem WellNamed.nodup_targetNames {r : InMemory} (h : r.WellNamed) : r.targetNames.Nodup := by
  have hnames : r.workspaces.values.map (·.name) = r.workspaces.entries.map (·.1) := by
    rw [SortedMap.values, List.map_map]
    refine List.map_congr_left fun e he => ?_
    exact h e.1 e.2 (SortedMap.mem_entries_iff.mp he)
  have hkeys : (r.workspaces.entries.map (·.1)).Nodup :=
    List.pairwise_map.mpr (r.workspaces.sorted.imp fun hbefore => hbefore.ne)
  have hsublist : r.targetNames.Sublist (r.workspaces.values.map (·.name)) :=
    List.filter_sublist.map _
  exact (hnames ▸ hkeys).sublist hsublist

/-! ### One binding -/

/-- What the binding of a workspace is built on. -/
def oldMetadata (r : InMemory) (k : String) : ObjectMeta :=
  AccessBinding.oldMetadata (r.bindings.get? k)

/-- Neither the binding of a workspace nor the count of its writes is changed. -/
structure LeavesAlone (k : String) (old new : InMemory) : Prop where
  /-- The binding of the workspace is the old one. -/
  binding : new.bindings.get? k = old.bindings.get? k
  /-- No write of it was counted. -/
  writes : new.writes.get? k = old.writes.get? k

/-- The binding of a workspace is rebuilt from the old one for the subjects. -/
structure Rebuilds (k : String) (subjects : List String) (old new : InMemory) : Prop where
  /-- The binding is there, with its name, for exactly the subjects, and counts them; all that does
  not concern this controller is kept. -/
  binding : ∃ b now, new.bindings.get? k = some b ∧
    b.metadata.name = some AccessBinding.name ∧
    b.subjectNames = subjects ∧
    b.metadata.annotationsD.get? Annotations.staffCount = some (toString subjects.length) ∧
    AccessBinding.IsRebuilt (old.oldMetadata k) subjects old.sourceNamespace now b ∧
    b.metadata.unmarked =
      { (old.oldMetadata k).unmarked with name := some AccessBinding.name }
  /-- It was written once, no more and no less. -/
  writes : new.writes.getD k 0 = old.writes.getD k 0 + 1

variable {k : String} {subjects : List String} {old mid new : InMemory}

/-- A binding that is not touched is left alone. -/
theorem LeavesAlone.refl (k : String) (r : InMemory) : LeavesAlone k r r := ⟨rfl, rfl⟩

/-- What is left alone twice in a row is left alone by both together. -/
theorem LeavesAlone.trans (h : LeavesAlone k old mid) (h' : LeavesAlone k mid new) :
    LeavesAlone k old new :=
  ⟨h'.binding.trans h.binding, h'.writes.trans h.writes⟩

/-- What is left alone before can be rebuilt as well from the start. -/
theorem Rebuilds.of_leavesAlone (h : Rebuilds k subjects mid new) (hbefore : LeavesAlone k old mid)
    (hsource : mid.sourceNamespace = old.sourceNamespace) : Rebuilds k subjects old new := by
  have hold : mid.oldMetadata k = old.oldMetadata k := by
    rw [oldMetadata, oldMetadata, hbefore.binding]
  have hwrites : mid.writes.getD k 0 = old.writes.getD k 0 :=
    congrArg (Option.getD · 0) hbefore.writes
  obtain ⟨hbinding, hcount⟩ := h
  rw [hold, hsource] at hbinding
  rw [hwrites] at hcount
  exact ⟨hbinding, hcount⟩

/-- A binding that was rebuilt stays rebuilt as long as it is left alone afterwards. -/
theorem Rebuilds.leavesAlone (h : Rebuilds k subjects old mid) (hafter : LeavesAlone k mid new) :
    Rebuilds k subjects old new := by
  have hwrites : new.writes.getD k 0 = mid.writes.getD k 0 :=
    congrArg (Option.getD · 0) hafter.writes
  obtain ⟨hbinding, hcount⟩ := h
  rw [← hafter.binding] at hbinding
  rw [← hwrites] at hcount
  exact ⟨hbinding, hcount⟩

/-- A binding that is written is rebuilt, and all others are left alone. -/
theorem rebuilds_of_writeBinding {w : String} {now : Timestamp}
    (h : old.writeBinding w subjects now = (.ok (), new)) :
    Rebuilds w subjects old new ∧ (∀ k, k ≠ w → LeavesAlone k old new) ∧
      new.sourceNamespace = old.sourceNamespace := by
  rcases old.writeBinding_cases w subjects now with ⟨e, hfails⟩ | hwrites
  · rw [hfails] at h
    cases h
  · rw [hwrites] at h
    cases h
    have hrebuilt : AccessBinding.IsRebuilt (old.oldMetadata w) subjects old.sourceNamespace now
        (old.rebuiltBinding w subjects now) :=
      (AccessBinding.desired_isRebuilt (old.bindings.get? w) subjects old.sourceNamespace
        now).congr rfl rfl rfl rfl
    have hkept : (old.rebuiltBinding w subjects now).metadata.unmarked =
        { (old.oldMetadata w).unmarked with name := some AccessBinding.name } := by
      rw [oldMetadata, AccessBinding.oldMetadata_eq]
      rfl
    refine ⟨⟨⟨_, now, SortedMap.get?_insert_self _ _ _, rfl, hrebuilt.subjectNames,
      hrebuilt.staffCount, hrebuilt, hkept⟩, ?_⟩, fun k hk => ?_, rfl⟩
    · rw [SortedMap.getD, SortedMap.get?_insert_self]
      rfl
    · exact ⟨SortedMap.get?_insert_of_ne hk, SortedMap.get?_insert_of_ne hk⟩

end InMemory

namespace Sweep

open InMemory (LeavesAlone Rebuilds)

/-! ### The rounds in memory -/

/-- The verdict on a workspace that is listed once is what becomes of its binding. -/
theorem Rounds.rebuilds {wall : Instant → Timestamp} {subjects : List String} {deadline : Instant}
    {left : List WorkspaceInfo} {world later : World} {now finish : Instant}
    {verdicts : List Verdict} {story : Story Unit}
    (h : Rounds (World.host wall) () subjects deadline left world now verdicts story later finish)
    (hnodup : (left.map (·.name)).Nodup) (k : String) :
    ((k, none) ∈ verdicts → Rebuilds k subjects world.remote later.remote) ∧
      ((k, none) ∉ verdicts → LeavesAlone k world.remote later.remote) := by
  induction h with
  | done => exact ⟨fun h => absurd h List.not_mem_nil, fun _ => .refl _ _⟩
  | abandon _ _ ih | giveUp _ _ ih =>
    obtain ⟨hrebuilds, hleaves⟩ := ih (List.nodup_cons.mp hnodup).2
    exact ⟨fun h => hrebuilds (by simpa using h), fun h => hleaves (by simpa using h)⟩
  | refuse _ _ hanswer _ ih =>
    obtain rfl := eq_of_write_fails hanswer
    obtain ⟨hrebuilds, hleaves⟩ := ih (List.nodup_cons.mp hnodup).2
    exact ⟨fun h => hrebuilds (by simpa using h), fun h => hleaves (by simpa using h)⟩
  | @update ws left world next later now answered finish verdicts story _ _ hanswer hrest ih =>
    obtain ⟨hnew, hnodup⟩ := List.nodup_cons.mp hnodup
    obtain ⟨hrebuilds, hleaves⟩ := ih hnodup
    obtain ⟨hwritten, hothers, hsource⟩ :
        Rebuilds ws.name subjects world.remote next.remote ∧
          (∀ k, k ≠ ws.name → LeavesAlone k world.remote next.remote) ∧
          next.remote.sourceNamespace = world.remote.sourceNamespace := by
      rcases hwrite : world.remote.writeBinding ws.name subjects (wall answered) with ⟨r, remote⟩
      simp only [World.host, World.answer, Host.clock, hwrite] at hanswer
      cases hanswer
      exact InMemory.rebuilds_of_writeBinding hwrite
    by_cases hk : k = ws.name
    · subst hk
      -- No other round is about this workspace, so its binding stays as it was written.
      have honce : (ws.name, none) ∉ verdicts := fun hmem =>
        hnew (hrest.names ▸ List.mem_map_of_mem hmem)
      exact ⟨fun _ => hwritten.leavesAlone (hleaves honce), fun h => absurd List.mem_cons_self h⟩
    · have hbefore := hothers k hk
      constructor
      · intro h
        exact (hrebuilds (by simpa [hk] using h)).of_leavesAlone hbefore hsource
      · intro h
        exact hbefore.trans (hleaves fun hmem => h (List.mem_cons_of_mem _ hmem))

/-- A workspace that is listed once was updated just when it is not among the failures. -/
theorem mem_iff_notMem_failuresOf {verdicts : List Verdict}
    (hnodup : (verdicts.map (·.1)).Nodup) (k : String) :
    (k, none) ∈ verdicts ↔
      k ∈ verdicts.map (·.1) ∧ k ∉ (failuresOf verdicts).map (·.1) := by
  have hperm := updatedOf_append_failuresOf verdicts
  have hupdated : k ∈ updatedOf verdicts ↔ (k, none) ∈ verdicts := by
    simp [updatedOf]
  have hdisjoint := (List.nodup_append.mp (hperm.nodup_iff.mpr hnodup)).2.2
  rw [← hperm.mem_iff, ← hupdated, List.mem_append]
  constructor
  · intro h
    exact ⟨.inl h, fun hfailed => hdisjoint k h k hfailed rfl⟩
  · rintro ⟨h | h, hfailed⟩
    · exact h
    · exact absurd h hfailed

/-! ### Before and after the rounds in memory -/

section

variable {wall : Instant → Timestamp} {deadline : Instant} {world : World} {now : Instant}

/-- How the reads of a sweep end in a world that they leave as it is: with nothing in time, with
a failure, or with the workspaces that can receive a binding and the roster. -/
inductive HasRead (world : World) : Ended World (Option (Except Failure (Basis Unit))) → Prop
  /-- The deadline has passed before everything was read. -/
  | late (now : Instant) : HasRead world ⟨none, world, now⟩
  /-- The control plane cannot be connected to, or its workspaces cannot be listed. -/
  | remote (e : RemoteError) (now : Instant) :
      HasRead world ⟨some (.error (.remote e)), world, now⟩
  /-- The roster cannot be listed, though the workspaces could. -/
  | list (e : ApiError) (now : Instant) : HasRead world ⟨some (.error (.list e)), world, now⟩
  /-- Everything is read, as it is in the world. -/
  | all (now : Instant) : HasRead world
      ⟨some (.ok ⟨(), WorkspaceInfo.targets world.remote.workspaces.values, world.roster⟩), world,
        now⟩

/-- Reading in memory reads the world and changes nothing. -/
theorem hasRead_of_readBasis (wall : Instant → Timestamp) (deadline : Instant) (world : World)
    (now : Instant) :
    HasRead world (((readBasis : Activity Unit _).within deadline).run (World.host wall) world
      now) := by
  obtain ⟨hfits, hlate⟩ := run_readBasis_within wall world deadline now
  by_cases h : Fits (readTime world) now deadline
  · rw [hfits h, basisOf]
    cases world.remote.connect with
    | error e => exact .remote e _
    | ok session =>
      cases hlist : world.remote.listWorkspaces with
      | error e => exact .remote e _
      | ok workspaces =>
        obtain rfl := InMemory.eq_targets_of_listWorkspaces hlist
        cases hread : world.staff.list with
        | error e => exact .list e _
        | ok members =>
          obtain rfl := Store.eq_values_of_list hread
          exact .all _
  · obtain ⟨later, hrun⟩ := hlate h
    rw [hrun]
    exact .late later

/-- Finishing a sweep leaves the control plane alone: only the metrics and the staff are
concerned. -/
theorem remote_finish (trigger : Trigger) (o : Outcome) :
    ((finish trigger o : Activity Unit _).run (World.host wall) world now).world.remote =
      world.remote := by
  cases trigger with
  | workspaces => rfl
  | staffMember id =>
    obtain ⟨_, _, _, _, hanswer, hrun, -⟩ :=
      finish_staffMember (World.host wall) id o world now
    rw [hrun]
    exact (congrArg (·.2.remote) hanswer).symm

end

/-! ### The whole sweep -/

/-- The bindings of all workspaces that can receive one are rebuilt, but those of the failed ones
and all others are left alone. -/
structure RebuildsAllBut (failed : List String) (subjects : List String) (old new : InMemory) :
    Prop where
  /-- Workspaces that can receive a binding and did not fail. -/
  targets : ∀ k, old.IsTarget k → k ∉ failed → Rebuilds k subjects old new
  /-- Workspaces that failed, which can receive a binding. -/
  failed : ∀ k ∈ failed, old.IsTarget k ∧ LeavesAlone k old new
  /-- Workspaces that cannot receive a binding are left alone. -/
  others : ∀ k, ¬old.IsTarget k → LeavesAlone k old new

/-- The rounds over all workspaces that can receive a binding rebuild all but the failures. -/
theorem Rounds.rebuildsAllBut {wall : Instant → Timestamp} {subjects : List String}
    {deadline : Instant} {world later : World} {now finish : Instant} {verdicts : List Verdict}
    {story : Story Unit} (hnamed : world.remote.WellNamed)
    (h : Rounds (World.host wall) () subjects deadline
      (WorkspaceInfo.targets world.remote.workspaces.values) world now verdicts story later
      finish) :
    RebuildsAllBut ((failuresOf verdicts).map (·.1)) subjects world.remote later.remote := by
  have hnames : verdicts.map (·.1) = world.remote.targetNames := h.names
  have hnodup := hnamed.nodup_targetNames
  have hmem (k : String) : (k, none) ∈ verdicts ↔
      world.remote.IsTarget k ∧ k ∉ (failuresOf verdicts).map (·.1) := by
    rw [mem_iff_notMem_failuresOf (hnames ▸ hnodup), hnames, hnamed.mem_targetNames]
  refine ⟨fun k htarget hk => ?_, fun k hk => ⟨?_, ?_⟩, fun k hother => ?_⟩
  · exact (h.rebuilds hnodup k).1 ((hmem k).mpr ⟨htarget, hk⟩)
  · rw [← hnamed.mem_targetNames, ← hnames]
    exact (failuresOf_sublist verdicts).subset hk
  · exact (h.rebuilds hnodup k).2 fun hupdated => ((hmem k).mp hupdated).2 hk
  · exact (h.rebuilds hnodup k).2 fun hupdated => hother ((hmem k).mp hupdated).1

/-- A sweep that is alone in the world and succeeds rebuilds the bindings of all managed workspaces
that are ready from the roster; if it fails on some workspaces, it rebuilds those of all the others.
Every other binding is left alone. -/
theorem a_sweep_rebuilds_exactly_the_targets (wall : Instant → Timestamp) {world : World}
    (hnamed : world.remote.WellNamed) (trigger : Trigger) (deadline now : Instant) :
    let ended := (reconcile trigger deadline).run (World.host wall) world now
    let subjects := Roster.subjects world.roster
    (∀ action, ended.result = .ok action →
      RebuildsAllBut [] subjects world.remote ended.world.remote) ∧
    ∀ total failures, ended.result = .error (.workspaces total failures) →
      RebuildsAllBut (failures.map (·.1)) subjects world.remote ended.world.remote := by
  intro ended subjects
  have hunread := reconcile_of_unread (World.host wall) trigger deadline world now
  have hread := hasRead_of_readBasis wall deadline world now
  generalize hbasis : ((readBasis : Activity Unit _).within deadline).run (World.host wall) world
    now = read at hread hunread
  cases hread with
  | late =>
    have hresult : ended.result = .error .timeout := congrArg (·.result) (hunread.1 rfl)
    rw [hresult]
    exact ⟨nofun, nofun⟩
  | remote e | list e =>
    have hresult : ended.result = .error _ := congrArg (·.result) (hunread.2 _ rfl)
    rw [hresult]
    exact ⟨nofun, nofun⟩
  | all begun =>
    -- The result and the bindings both follow the verdicts of the rounds.
    obtain ⟨verdicts, story, written, instant, hrounds, hrun, -⟩ :=
      reconcile_of_basis trigger (congrArg (·.result) hbasis)
    have hended : ended = _ := hrun
    rw [hbasis] at hrounds
    have hrebuilds := hrounds.rebuildsAllBut hnamed
    have hconcludes := concludes_finish (World.host wall) trigger written instant
      (total_tally subjects.length verdicts)
    rw [hended, remote_finish]
    constructor
    · intro action hok
      have hnone : failuresOf verdicts = [] := (hconcludes.ok action hok).2
      rw [hnone] at hrebuilds
      exact hrebuilds
    · intro total failures hfailed
      obtain ⟨-, rfl, -⟩ := hconcludes.failed total failures hfailed
      exact hrebuilds

/-- For an empty roster the bindings are rebuilt with no subjects. -/
example : Roster.subjects [] = [] := rfl

/-! ### A sweep among other workspaces -/

/-- A binding of someone who is no longer on the roster, with a label of someone else. -/
def stale : ClusterRoleBinding :=
  { metadata := { labels := some (.ofList [("team", "infra")]) }
    roleRef := AccessBinding.roleRef
    subjects := some [AccessBinding.user "oidc:bob@x.io"] }

/-- Two managed workspaces that are ready, of which one can fail, one of someone else, and one that
was just requested. -/
def neighbourhood (fails : Bool) : World where
  remote :=
    let added := (InMemory.addWorkspace { sourceNamespace := "maintainerd" } "argo" .ready true)
      |>.addWorkspace "flux" .scheduling true |>.addWorkspace "keda" .ready false
    ((added.setPhase "flux" .ready none).createWorkspace "zot" "zot").2
      |>.setBinding "argo" stale |>.setBinding "keda" stale |>.setFailing "flux" fails
  staff := { objects := .ofList [(ann, .edit none ann "ann@x.io" .empty)] }

/-- The control plane of the example is built by its operations only. -/
theorem built_neighbourhood (fails : Bool) : (neighbourhood fails).remote.Built :=
  (InMemory.Built.new "maintainerd").add "argo" .ready true |>.add "flux" .scheduling true
    |>.add "keda" .ready false |>.phase "flux" .ready none |>.create "zot" "zot"
    |>.bind "argo" stale |>.bind "keda" stale |>.fail "flux" fails

/-- The sweep succeeds, or fails on the one workspace, and does what it says. -/
theorem neighbourhood_is_rebuilt :
    let host := World.host fun _ => .epoch
    let ended (fails : Bool) := (reconcile (.staffMember ann) 50).run host (neighbourhood fails) 0
    (ended false).result = .ok .done ∧
    RebuildsAllBut [] ["oidc:ann@x.io"] (neighbourhood false).remote (ended false).world.remote ∧
    (ended true).result = .error (.workspaces 2
      [("flux", .remote (InMemory.unavailable "workspace flux is unavailable"))]) ∧
    RebuildsAllBut ["flux"] ["oidc:ann@x.io"] (neighbourhood true).remote
      (ended true).world.remote := by
  intro host ended
  have hrebuilds (fails : Bool) := a_sweep_rebuilds_exactly_the_targets (fun _ => .epoch)
    (built_neighbourhood fails).wellNamed (.staffMember ann) 50 0
  exact ⟨rfl, (hrebuilds false).1 .done rfl, rfl, (hrebuilds true).2 2 _ rfl⟩

end Sweep

end WorkspaceAccess
