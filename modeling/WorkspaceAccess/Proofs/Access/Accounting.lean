import WorkspaceAccess.Proofs.Access.Rebuild
import WorkspaceAccess.Proofs.Access.Rounds
import WorkspaceAccess.Reconcile.World

/-!
# What a Sweep Accounts For

A sweep that has read what it starts from says of every listed workspace what became of it: it is
updated or among the failures, those that are abandoned come last, and no update is begun once the
deadline has passed. Its result and the status that it records say the same.

The host is arbitrary: how long calls take, what they are answered, and how the staff is kept, as
long as only the calls that add annotations to a member change it (`KeepsStaff`). So nothing here
depends on a control plane in memory; whatever the calls are answered, the books of the sweep are in
order.

Three structures say what they are. `Accounts` relates the outcome of a sweep to what it did, as its
story tells: which writes it began, and how they were answered. `Concludes` relates the outcome to
the result. `Records` relates it to what is left on the staff member who triggered the sweep: the
status that is recorded is a success just when nothing failed, an error just when nothing was
updated either, and partial otherwise, with the number of the updates in decimal.

## Main results

* `updatedOf_append_failuresOf`, `failuresOf_sublist`, `abandonedOf_failuresOf`: the updated
  workspaces and the failures are all verdicts, each once, and the failures are in order.
* `status_text_iff`, `isRecord_annotate`: what the recorded status says, and that adding the
  annotations records it.
* `Rounds.accounts`: the accounts of a sweep are those of its rounds.
* `concludes_finish`, `records_of_finish`: finishing a sweep concludes it and records it truthfully.
* `every_sweep_is_accounted_for`: all of it, for every host, trigger, deadline and start.
* `overdue_is_accounted_for`: four workspaces of which one fails and one takes too long.
-/

namespace WorkspaceAccess

namespace Sweep

variable {σ ω : Type}

/-! ### Counting verdicts -/

/-- The updated workspaces and the failures are all, each once. -/
theorem updatedOf_append_failuresOf (verdicts : List Verdict) :
    (updatedOf verdicts ++ (failuresOf verdicts).map (·.1)).Perm (verdicts.map (·.1)) := by
  induction verdicts with
  | nil => exact .nil
  | cons v rest ih =>
    obtain ⟨name, verdict⟩ := v
    cases verdict with
    | none => exact ih.cons name
    | some failure => exact List.perm_middle.trans (ih.cons name)

/-- The failures stand in the order in which the workspaces were listed, with those that succeeded
left out. -/
theorem failuresOf_sublist (verdicts : List Verdict) :
    ((failuresOf verdicts).map (·.1)).Sublist (verdicts.map (·.1)) := by
  induction verdicts with
  | nil => exact .slnil
  | cons v rest ih =>
    obtain ⟨name, verdict⟩ := v
    cases verdict with
    | none => exact ih.cons name
    | some failure => exact ih.cons_cons name

/-- As many workspaces are counted as there are verdicts. -/
theorem total_tally (subjects : Nat) (verdicts : List Verdict) :
    (tally subjects verdicts).total = verdicts.length := by
  have hlength := (updatedOf_append_failuresOf verdicts).length_eq
  rw [List.length_append, List.length_map, List.length_map] at hlength
  exact hlength

/-- The workspaces that were abandoned, as the failures tell them. -/
def abandonedOf (failures : List (String × WorkspaceFailure)) : List String :=
  (failures.filter (·.2 = .abandoned)).map (·.1)

/-- Among the failures the abandoned workspaces are exactly those that were judged so, in the same
order. -/
theorem abandonedOf_failuresOf (verdicts : List Verdict) :
    abandonedOf (failuresOf verdicts) =
      (verdicts.filter (·.2 = some .abandoned)).map (·.1) := by
  induction verdicts with
  | nil => rfl
  | cons v rest ih =>
    obtain ⟨name, verdict⟩ := v
    rw [abandonedOf, failuresOf] at ih ⊢
    cases verdict with
    | none => simpa using ih
    | some failure => cases failure <;> simpa using ih

/-! ### The status -/

/-- What the recorded status says, as a text: that nothing failed, that nothing was written, or that
there was both. -/
theorem status_text_iff (o : Outcome) :
    (o.status.text = "success" ↔ o.failures = []) ∧
      (o.status.text = "error" ↔ o.failures ≠ [] ∧ o.updated = 0) ∧
      (o.status.text = "partial" ↔ o.failures ≠ [] ∧ 0 < o.updated) := by
  obtain ⟨subjects, updated, failures⟩ := o
  cases failures with
  | nil => simp [Outcome.status, SyncStatus.ofCounts, SyncStatus.text]
  | cons failure failures =>
    cases updated with
    | zero => simp [Outcome.status, Outcome.total, SyncStatus.ofCounts, SyncStatus.text]
    | succ updated =>
      have hlt : failures.length + 1 < updated + 1 + (failures.length + 1) := by omega
      simp [Outcome.status, Outcome.total, SyncStatus.ofCounts, SyncStatus.text, hlt]

/-- The new version of a member differs from the old one by the record of an outcome. -/
structure IsRecord (o : Outcome) (now : Timestamp) (old new : StaffMember) : Prop where
  /-- Nothing but the annotations of the member is changed. -/
  rest : new = { old with
    metadata := { old.metadata with annotations := new.metadata.annotations } }
  /-- Annotations under other keys than the three are kept. -/
  others : ∀ k, k ∉ Annotations.syncKeys → new.annotations.get? k = old.annotations.get? k
  /-- The time at which the outcome is recorded is written down. -/
  synced : new.annotations.get? Annotations.lastSynced = some now.render
  /-- The status is a success just when nothing failed. -/
  success : new.annotations.get? Annotations.syncStatus = some "success" ↔ o.failures = []
  /-- It is an error just when something failed and nothing was updated. -/
  error : new.annotations.get? Annotations.syncStatus = some "error" ↔
    o.failures ≠ [] ∧ o.updated = 0
  /-- It is partial just when something failed and something was updated. -/
  partly : new.annotations.get? Annotations.syncStatus = some "partial" ↔
    o.failures ≠ [] ∧ 0 < o.updated
  /-- The number of updated workspaces is recorded in decimal digits. -/
  count : new.annotations.get? Annotations.workspaceCount = some (toString o.updated)

/-- Adding the annotations for an outcome to a member records it. -/
theorem isRecord_annotate (o : Outcome) (now : Timestamp) (m : StaffMember) :
    IsRecord o now m (m.annotate (statusAnnotations o now)) := by
  have hget (k : String) : (m.annotate (statusAnnotations o now)).annotations.get? k =
      ((statusAnnotations o now).get? k).or (m.annotations.get? k) :=
    SortedMap.get?_merge _ _ k
  have hmem {k v : String} (h : (k, v) ∈ [(Annotations.lastSynced, now.render),
      (Annotations.syncStatus, o.status.text), (Annotations.workspaceCount, toString o.updated)]) :
      (m.annotate (statusAnnotations o now)).annotations.get? k = some v := by
    have hdistinct : ([(Annotations.lastSynced, now.render),
        (Annotations.syncStatus, o.status.text),
        (Annotations.workspaceCount, toString o.updated)].map (·.1)).Nodup := by
      show Annotations.syncKeys.Nodup
      decide
    rw [hget, statusAnnotations, SortedMap.ofList,
      SortedMap.get?_insertAll_of_mem hdistinct h]
    rfl
  have hstatus : (m.annotate (statusAnnotations o now)).annotations.get? Annotations.syncStatus =
      some o.status.text := hmem (by simp)
  obtain ⟨hsuccess, herror, hpartly⟩ := status_text_iff o
  refine ⟨rfl, fun k hk => ?_, hmem (by simp), ?_, ?_, ?_, hmem (by simp)⟩
  · rw [hget, statusAnnotations, SortedMap.ofList, SortedMap.get?_insertAll_of_notMem hk]
    rfl
  · rw [hstatus, Option.some.injEq, hsuccess]
  · rw [hstatus, Option.some.injEq, herror]
  · rw [hstatus, Option.some.injEq, hpartly]

/-! ### The whole sweep -/

/-- A host in whose worlds only the calls that add annotations to a member change the staff. -/
structure KeepsStaff (host : Host σ ω) (staff : ω → SortedMap ResourceId StaffMember) : Prop where
  /-- A member that is there gets the annotations. -/
  patch : ∀ {id annotations clock world later},
    host.answer (.patchStaff id annotations) clock world = (.ok true, later) →
    ∃ m, (staff world).get? id = some m ∧
      staff later = (staff world).insert id (m.annotate annotations)
  /-- No call other than the patch of a member changes the staff. -/
  other : ∀ {call : Call σ} {clock world answer later},
    host.answer call clock world = (answer, later) →
    (∀ id annotations, call ≠ .patchStaff id annotations) → staff later = staff world
  /-- Neither do the counts that are added to the metrics. -/
  report : ∀ counts world, staff (host.report counts world) = staff world

/-- What a sweep says of the workspaces that it has listed agrees with what it did. -/
structure Accounts (deadline : Instant) (listed : List String) (story : Story σ) (o : Outcome) :
    Prop where
  /-- The outcome is reported for the metrics, with its counts. -/
  reported : ∃ t, (t, .reported o.counts) ∈ story
  /-- The updates that are counted are the writes that succeeded. -/
  updated : o.updated = (story.filterMap (updated? ·.2)).length
  /-- The updated workspaces and the failures are the listed ones, each once. -/
  each : (story.filterMap (updated? ·.2) ++ o.failures.map (·.1)).Perm listed
  /-- The failures are in the order of the listing. -/
  ordered : (o.failures.map (·.1)).Sublist listed
  /-- The abandoned workspaces are the last ones of the listing. -/
  abandoned : abandonedOf o.failures <:+ listed
  /-- Every update is begun before the deadline, whatever comes of it. -/
  begun : ∀ e ∈ story, ∀ ws, begun? e.2 = some ws → e.1 < deadline

/-- The result of a sweep agrees with its outcome. -/
structure Concludes (total : Nat) (o : Outcome) (result : Except Failure Action) : Prop where
  /-- A sweep that succeeds has no failures and leaves nothing to be done. -/
  ok : ∀ action, result = .ok action → action = .done ∧ o.failures = []
  /-- A sweep that fails on workspaces says so of its failures and of all that were listed. -/
  failed : ∀ n failures, result = .error (.workspaces n failures) →
    n = total ∧ failures = o.failures ∧ failures ≠ []
  /-- Otherwise it has failures to report, or it could not record its outcome. -/
  ends : (∃ action, result = .ok action) ∨
    (∃ n failures, result = .error (.workspaces n failures)) ∨ ∃ e, result = .error (.status e)

/-- What a sweep records on the member who triggered it agrees with its outcome and its result. -/
structure Records (id : ResourceId) (o : Outcome) (staff later : SortedMap ResourceId StaffMember)
    (result : Except Failure Action) : Prop where
  /-- No other member of the staff is changed. -/
  others : ∀ k, k ≠ id → later.get? k = staff.get? k
  /-- The member gets the record, which is one of a success just when the sweep is one. -/
  record : ∃ old new now, staff.get? id = some old ∧ later.get? id = some new ∧
    IsRecord o now old new ∧
    (new.annotations.get? Annotations.syncStatus = some "success" ↔ result = .ok .done)

/-- The result that an outcome leads to agrees with it: a failure tells all failures and how many
workspaces were listed. -/
theorem concludes_conclude {total : Nat} {o : Outcome} (htotal : o.total = total) :
    Concludes total o (conclude o) := by
  rw [conclude]
  split
  · rename_i hempty
    refine ⟨fun action h => ?_, nofun, .inl ⟨_, rfl⟩⟩
    cases h
    exact ⟨rfl, List.isEmpty_iff.mp hempty⟩
  · rename_i hfailures
    refine ⟨nofun, fun n failures h => ?_, .inr (.inl ⟨_, _, rfl⟩)⟩
    cases h
    exact ⟨htotal, rfl, fun h => hfailures (List.isEmpty_iff.mpr h)⟩

/-- Finishing a sweep that was triggered by the workspaces. -/
theorem finish_workspaces (host : Host σ ω) (o : Outcome) (world : ω) (now : Instant) :
    (finish .workspaces o : Activity σ _).run host world now =
        ⟨conclude o, host.report o.counts world, now⟩ ∧
      (finish .workspaces o : Activity σ _).story host world now = [(now, .reported o.counts)] :=
  ⟨rfl, rfl⟩

/-- Finishing a sweep that was triggered by a staff member. -/
theorem finish_staffMember (host : Host σ ω) (id : ResourceId) (o : Outcome) (world : ω)
    (now : Instant) :
    let last : Activity σ (Except Failure Action) := finish (.staffMember id) o
    let annotations := statusAnnotations o (host.wall now)
    ∃ clock answer later ended,
      host.answer (.patchStaff id annotations) clock (host.report o.counts world) =
        (answer, later) ∧
      last.run host world now = ⟨match answer with
        | .error e => .error (.status e)
        | .ok _ => conclude o, later, ended⟩ ∧
      last.story host world now =
        [(now, .reported o.counts), (now, .looked),
          (now, .answered (.patchStaff id annotations) answer)] := by
  intro last annotations
  let call : Call σ := .patchStaff id annotations
  let ended := now + host.delay (host.report o.counts world) call
  rcases hanswer : host.answer call (host.clock ended) (host.report o.counts world) with
    ⟨answer, later⟩
  have hlast : last = .report o.counts ((recordStatus id o).andThen fun _ => .done (conclude o)) :=
    rfl
  rw [hlast, Leg.recordStatus_eq]
  refine ⟨host.clock ended, answer, later, ended, hanswer, ?_, ?_⟩
  · show ((Leg.patch id o (host.wall now)).andThen _).run host (host.report o.counts world) now = _
    rw [Activity.andThen, Activity.run_bind, Leg.patch, (Activity.await_answered hanswer).1]
    cases answer <;> rfl
  · show _ :: _ :: ((Leg.patch id o (host.wall now)).andThen _).story host
      (host.report o.counts world) now = _
    rw [Activity.andThen, Activity.story_bind, Leg.patch, (Activity.await_answered hanswer).1,
      (Activity.await_answered hanswer).2]
    cases answer <;> rfl

/-- Finishing a sweep reports its outcome and does not go on updating. -/
theorem story_finish (host : Host σ ω) (trigger : Trigger) (o : Outcome) (world : ω)
    (now : Instant) :
    let story := (finish trigger o : Activity σ _).story host world now
    (now, .reported o.counts) ∈ story ∧ ∀ e ∈ story, begun? e.2 = none ∧ updated? e.2 = none := by
  cases trigger with
  | workspaces =>
    rw [(finish_workspaces host o world now).2]
    simp [begun?, updated?]
  | staffMember id =>
    obtain ⟨_, _, _, _, -, -, hstory⟩ := finish_staffMember host id o world now
    rw [hstory]
    simp [begun?, updated?]

/-- Finishing a sweep concludes it: the result is the one that the outcome calls for, whether or not
the outcome could be recorded. -/
theorem concludes_finish (host : Host σ ω) (trigger : Trigger) {o : Outcome} (world : ω)
    (now : Instant) {total : Nat} (htotal : o.total = total) :
    Concludes total o ((finish trigger o : Activity σ _).run host world now).result := by
  cases trigger with
  | workspaces =>
    rw [(finish_workspaces host o world now).1]
    exact concludes_conclude htotal
  | staffMember id =>
    obtain ⟨_, answer, _, _, -, hrun, -⟩ := finish_staffMember host id o world now
    rw [hrun]
    cases answer with
    | ok _ => exact concludes_conclude htotal
    | error e => exact ⟨nofun, nofun, .inr (.inr ⟨e, rfl⟩)⟩

section

variable {host : Host σ ω} {staff : ω → SortedMap ResourceId StaffMember} {session : σ}
  {subjects : List String} {deadline : Instant} {left : List WorkspaceInfo} {world later : ω}
  {now ended : Instant} {verdicts : List Verdict} {story : Story σ}

/-- The accounts of a sweep are those of its rounds. -/
theorem Rounds.accounts
    (h : Rounds host session subjects deadline left world now verdicts story later ended)
    {before after : Story σ} {n : Nat} (hbefore : ∀ e ∈ before, OnlyReads e.2)
    (hafter : ∀ e ∈ after, begun? e.2 = none ∧ updated? e.2 = none)
    (hreported : ∃ t, (t, .reported (tally n verdicts).counts) ∈ after) :
    Accounts deadline (left.map (·.name)) (before ++ story ++ after) (tally n verdicts) := by
  have hupdated : (before ++ story ++ after).filterMap (updated? ·.2) = updatedOf verdicts := by
    have hnone : before.filterMap (updated? ·.2) = [] :=
      List.filterMap_eq_nil_iff.mpr fun e he => (hbefore e he).updated
    have hnone' : after.filterMap (updated? ·.2) = [] :=
      List.filterMap_eq_nil_iff.mpr fun e he => (hafter e he).2
    rw [List.filterMap_append, List.filterMap_append, hnone, hnone', h.filterMap_updated,
      List.append_nil, List.nil_append]
  refine ⟨?_, ?_, ?_, ?_, ?_, ?_⟩
  · obtain ⟨t, ht⟩ := hreported
    exact ⟨t, List.mem_append_right _ ht⟩
  · rw [hupdated]
    rfl
  · rw [hupdated, ← h.names]
    exact updatedOf_append_failuresOf verdicts
  · rw [← h.names]
    exact failuresOf_sublist verdicts
  · -- Everything from some workspace on is abandoned, and nothing before it.
    obtain ⟨front, back, rfl, hfront, hback⟩ := h.abandoned_last
    have hback' : back.filter (·.2 = some .abandoned) = back :=
      List.filter_eq_self.mpr fun v hv => decide_eq_true (hback v hv)
    have hfront' : front.filter (·.2 = some .abandoned) = [] :=
      List.filter_eq_nil_iff.mpr fun v hv => by simpa using hfront v hv
    rw [← h.names, tally, abandonedOf_failuresOf, List.filter_append, hfront', hback',
      List.nil_append, List.map_append]
    exact List.suffix_append _ _
  · intro e he ws hws
    rcases List.mem_append.mp he with he | he
    · rcases List.mem_append.mp he with he | he
      · rw [(hbefore e he).begun] at hws
        cases hws
      · exact h.begun_before e he ws hws
    · rw [(hafter e he).1] at hws
      cases hws

/-- The rounds leave the staff alone, as no call that writes a binding touches it. By induction on
the rounds. -/
theorem Rounds.staff_eq (hstaff : KeepsStaff host staff)
    (h : Rounds host session subjects deadline left world now verdicts story later ended) :
    staff later = staff world := by
  induction h with
  | done => rfl
  | abandon _ _ ih | giveUp _ _ ih => exact ih
  | update _ _ hanswer _ ih | refuse _ _ hanswer _ ih =>
    exact ih.trans (hstaff.other hanswer nofun)

/-- Reading leaves the staff alone, wherever it ends. -/
theorem staff_of_readBasis (hstaff : KeepsStaff host staff) :
    staff (((readBasis : Activity σ _).within deadline).run host world now).world =
      staff world := by
  refine Activity.run_of_story staff (fun deed => patches? deed ≠ none)
    (fun counts world _ => hstaff.report counts world) (fun call clock world h => ?_) _ _ _
    (fun e he hne => hne (onlyReads_of_readBasis e he).patches)
  refine hstaff.other rfl fun id annotations hcall => h ?_
  subst hcall
  exact nofun

/-- Nothing that is done in the rounds adds annotations to a member; only the end of a sweep
does. -/
theorem Rounds.patches_eq_none
    (h : Rounds host session subjects deadline left world now verdicts story later ended) :
    ∀ e ∈ story, patches? e.2 = none := by
  rintro ⟨t, deed⟩ he
  rcases h.looks_or_begins _ he with hlook | ⟨ws, hbegun⟩
  · rw [hlook]
    rfl
  · cases deed with
    | looked | reported | gaveUp => rfl
    | answered call =>
      cases call with
      | patchStaff => cases hbegun
      | _ => rfl

/-- A sweep that can record its outcome on the member who triggered it records it truthfully. -/
theorem records_of_finish (hstaff : KeepsStaff host staff) {id : ResourceId} {o : Outcome}
    {annotations : Annotations} {e : Instant × Deed σ}
    (he : e ∈ (finish (.staffMember id) o : Activity σ _).story host world now)
    (hdeed : e.2 = .answered (.patchStaff id annotations) (.ok true)) :
    let last := (finish (.staffMember id) o : Activity σ _).run host world now
    Records id o (staff world) (staff last.world) last.result := by
  intro last
  obtain ⟨clock, answer, later, instant, hanswer, hrun, hstory⟩ :=
    finish_staffMember host id o world now
  have htrue : answer = .ok true := by
    rw [hstory] at he
    obtain rfl | rfl | rfl := by simpa using he
    · cases hdeed
    · cases hdeed
    · cases hdeed
      rfl
  subst htrue
  obtain ⟨m, hm, hlater⟩ := hstaff.patch hanswer
  rw [hstaff.report] at hm hlater
  have hlast : last = ⟨conclude o, later, instant⟩ := hrun
  rw [hlast]
  have hrecord := isRecord_annotate o (host.wall now) m
  refine ⟨fun k hk => ?_, m, _, _, hm, ?_, hrecord, ?_⟩
  · rw [hlater, SortedMap.get?_insert_of_ne hk]
  · rw [hlater, SortedMap.get?_insert_self]
  · rw [hrecord.success, conclude]
    cases o.failures <;> simp

end

/-- A sweep that gets past its reads accounts for every listed workspace, each once and in order,
whatever calls are answered and however long they take. What it returns says the same, and so does
what it records on the staff member who triggered it; without such a member no one is changed. -/
theorem every_sweep_is_accounted_for {host : Host σ ω}
    {staff : ω → SortedMap ResourceId StaffMember} (hstaff : KeepsStaff host staff)
    (trigger : Trigger) (deadline : Instant) (world : ω) (now : Instant) {basis : Basis σ}
    (h : ((readBasis.within deadline).run host world now).result = some (.ok basis)) :
    let sweep : Activity σ (Except Failure Action) := reconcile trigger deadline
    let story := sweep.story host world now
    let ended := sweep.run host world now
    ∃ o : Outcome,
      Accounts deadline (basis.workspaces.map (·.name)) story o ∧
      Concludes basis.workspaces.length o ended.result ∧
      (∀ id, trigger = .staffMember id →
        (∃ e ∈ story, ∃ annotations, e.2 = .answered (.patchStaff id annotations) (.ok true)) →
        Records id o (staff world) (staff ended.world) ended.result) ∧
      (trigger = .workspaces → staff ended.world = staff world) := by
  obtain ⟨verdicts, rounds, written, instant, hrounds, hrun, hstory⟩ :=
    reconcile_of_basis trigger h
  intro sweep story ended
  have hstaffBefore : staff written = staff world :=
    (hrounds.staff_eq hstaff).trans (staff_of_readBasis hstaff)
  have htotal : (tally (Roster.subjects basis.members).length verdicts).total =
      basis.workspaces.length := by
    rw [total_tally, ← List.length_map, hrounds.names, List.length_map]
  obtain ⟨hreported, hquiet⟩ := story_finish host trigger
    (tally (Roster.subjects basis.members).length verdicts) written instant
  have hended : ended = _ := hrun
  have hall : story = _ := hstory
  rw [hended, hall, ← hstaffBefore]
  refine ⟨_, hrounds.accounts onlyReads_of_readBasis hquiet ⟨_, hreported⟩,
    concludes_finish host trigger written instant htotal, ?_, ?_⟩
  · rintro id rfl ⟨e, he, annotations, hdeed⟩
    -- Only the last call can be the patch: before it a sweep reads and goes its rounds.
    have hpatches : patches? e.2 = some (id, annotations) := by rw [hdeed]; rfl
    rcases List.mem_append.mp he with he | he
    · have hnone : patches? e.2 = none := by
        rcases List.mem_append.mp he with he | he
        · exact (onlyReads_of_readBasis e he).patches
        · exact hrounds.patches_eq_none e he
      rw [hnone] at hpatches
      cases hpatches
    · exact records_of_finish hstaff he hdeed
  · rintro rfl
    rw [(finish_workspaces host _ written instant).1]
    exact hstaff.report _ _

/-! ### A sweep that comes to its deadline -/

/-- In memory only the patches of a member change the staff. -/
theorem keepsStaff_host (wall : Instant → Timestamp) :
    KeepsStaff (World.host wall) (·.staff.objects) where
  patch := by
    intro id annotations clock world later h
    rcases hpatch : world.staff.patch StaffMember.annotate id annotations with ⟨found, staff⟩
    simp only [World.host, World.answer, hpatch] at h
    cases h
    rw [Store.patch] at hpatch
    split at hpatch
    · cases hpatch
    split at hpatch
    · cases hpatch
    split at hpatch
    · cases hpatch
    · rename_i m hm
      exact ⟨m, hm, (congrArg (·.2.objects) hpatch).symm⟩
  other := by
    intro call clock world answer later h hcall
    obtain rfl : (World.answer call clock world).2 = later := congrArg Prod.snd h
    cases call with
    | patchStaff id annotations => exact absurd rfl (hcall id annotations)
    | _ => rfl
  report _ _ := rfl

/-- The member whose change triggers the sweeps below, and on whom their outcome is recorded. -/
def ann : ResourceId := ⟨"maintainerd", "ann"⟩

/-- Four workspaces: the second one fails, and the third one takes too long. -/
def overdue : World where
  remote := {
    sourceNamespace := "maintainerd"
    workspaces := .ofList (["argo", "flux", "keda", "zot"].map fun name =>
      (name, ⟨name, .ready, none, true, none⟩))
    failing := .ofList ["flux"] }
  staff := { objects := .ofList [(ann, .edit none ann "ann@x.io" .empty)] }
  delays := .ofList [("bind:argo", 20), ("bind:keda", 100)]

/-- What is abandoned comes last, the failures are told, and so the recorded status is no
success. -/
theorem overdue_is_accounted_for :
    let sweep : Activity Unit (Except Failure Action) := reconcile (.staffMember ann) 50
    let host := World.host fun _ => .epoch
    let ended := sweep.run host overdue 0
    ended.result = .error (.workspaces 4
      [("flux", .remote (InMemory.unavailable "workspace flux is unavailable")),
        ("keda", .abandoned), ("zot", .abandoned)]) ∧
    ∃ o, Accounts 50 ["argo", "flux", "keda", "zot"] (sweep.story host overdue 0) o ∧
      Concludes 4 o ended.result ∧
      Records ann o overdue.staff.objects ended.world.staff.objects ended.result := by
  intro sweep host ended
  obtain ⟨o, haccounts, hconcludes, hrecords, -⟩ := every_sweep_is_accounted_for
    (keepsStaff_host fun _ => .epoch) (.staffMember ann) 50 overdue 0 rfl
  exact ⟨rfl, o, haccounts, hconcludes,
    hrecords ann rfl ⟨_, List.mem_of_getElem? (i := 12) rfl, _, rfl⟩⟩

end Sweep

end WorkspaceAccess
