import WorkspaceAccess.Proofs.Deployment.Records

/-!
# Workspaces That Are Attended To

From the moment at which a sweep of all workspaces is asked for until a binding is in the workspace,
there is always something that sees to it: the request, a sweep on its way, or a sweep that failed
and so is to be retried. A collapse of the controller gives up the sweep, and leaves its key active
for good.

`Attends` is the disjunction of these cases for one workspace, over a team and the bindings that are
there. It says nothing about which sweep it is, or when it will be through. What has to be shown is
that one step hands the task on: a request to the sweep that is started for it, that sweep to the
binding or to its failure, and a failure to the retry, which is never lost.

A sweep that was asked for before the workspace could receive its binding need not cover it. So the
disjunction begins with a request for which no sweep has been started yet, and a sweep that begins
covers whatever can receive a binding from then on.

## Main results

* `Attends.of_enqueue`, `Attends.of_enqueueAll`: a sweep that is asked for will see to it.
* `Attends.serve`, `Attends.act`: a sweep is started for a request, and the others go on.
* `Attends.begin`, `Attends.turn`, `Attends.finish`: a sweep that begins covers every workspace,
  keeps to that in its turns, and has left a binding or something to do when it ends.
* `Attends.step`: every step hands the task on.
* `Attends.isBound`: in a quiet controller nothing but a binding sees to it.
-/

namespace WorkspaceAccess

namespace Sweep

open QueueLog (about about_cons_self about_cons_of_ne about_append lately lately_cons
  lately_about_cons lastOutcome? apply_about_cons)

/-- Something sees to it that a workspace gets a binding. -/
inductive Attends (w : String) (r : InMemory) (t : Team Trigger Failure) : Prop
  /-- It has one already, whatever comes later. -/
  | bound (h : r.IsBound w)
  /-- A sweep was asked for, and none was started since. -/
  | asked (h : lately QueueEvent.isEnqueued (about .workspaces t.course.log) = true)
  /-- A sweep was started and has not begun. -/
  | started {run : Run Trigger} (hrun : run ∈ t.course.fresh) (hkey : run.key = .workspaces)
  /-- A sweep that covers the workspace is on its way. -/
  | covered {deadline : Instant} {leg : Leg Unit}
      (htask : (.workspaces, leg.rest .workspaces deadline) ∈ t.tasks) (hcovers : leg.Covers w r)
  /-- The newest sweep is over and left something to do. -/
  | failed {outcome : WorkspaceAccess.Outcome Failure}
      (hover : .workspaces ∉ t.course.controller.running.map (·.key))
      (hlast : lastOutcome? (about .workspaces t.course.log) = some outcome)
      (hleft : outcome ≠ .success .done)
  /-- A sweep was given up when the controller of sweeps collapsed. -/
  | givenUp (hover : t.course.controller.isOver = true)
      (hactive : t.course.controller.book.active.contains .workspaces = true)

namespace Attends

variable {w : String} {r old new : InMemory} {t : Team Trigger Failure}
  {policy : QueuePolicy Failure}

/-- In a quiet controller nothing but a binding sees to it. -/
theorem isBound (h : Attends w r t) (hmanned : t.Manned policy)
    (hquiet : t.course.controller.IsQuiet) : r.IsBound w := by
  obtain ⟨hrunning, hlog⟩ := hmanned.reachable.history.of_quiet hquiet
  obtain ⟨htasks, hfresh⟩ := hmanned.eq_nil hrunning
  obtain ⟨hasked, hdone⟩ := hlog .workspaces
  cases h with
  | bound h => exact h
  | asked h =>
    rw [hasked] at h
    cases h
  | started hrun =>
    rw [hfresh] at hrun
    cases hrun
  | covered htask =>
    rw [htasks] at htask
    cases htask
  | failed _ hlast hleft => exact absurd (hdone _ hlast) hleft
  | givenUp _ hactive =>
    rw [hquiet.active] at hactive
    cases hactive

/-- What sees to it goes on as long as the sweeps and what was asked for are not touched. -/
theorem of_same {t' : Team Trigger Failure} (h : Attends w old t) (hkeeps : old.KeepsBound new)
    (hlog : about .workspaces t'.course.log = about .workspaces t.course.log)
    (hfresh : t'.course.fresh = t.course.fresh) (htasks : t'.tasks = t.tasks)
    (hrunning : t'.course.controller.running = t.course.controller.running)
    (hgivenUp : t.course.controller.isOver = true → t'.course.controller.isOver = true ∧
      t'.course.controller.book = t.course.controller.book) : Attends w new t' := by
  cases h with
  | bound h => exact .bound (hkeeps w h)
  | asked h => exact .asked (hlog ▸ h)
  | started hrun hkey => exact .started (hfresh ▸ hrun) hkey
  | covered htask hcovers => exact .covered (htasks ▸ htask) (hcovers.mono hkeeps)
  | failed hover hlast hleft => exact .failed (hrunning ▸ hover) (hlog ▸ hlast) hleft
  | givenUp hover hactive =>
    obtain ⟨hstays, hbook⟩ := hgivenUp hover
    exact .givenUp hstays (hbook ▸ hactive)

/-- What sees to it goes on while bindings are not removed. -/
theorem mono (h : Attends w old t) (hkeeps : old.KeepsBound new) : Attends w new t :=
  h.of_same hkeeps rfl rfl rfl rfl fun hover => ⟨hover, rfl⟩

/-- Time that goes by takes nothing from those who see to it. -/
theorem wait (h : Attends w r t) (later : Instant) : Attends w r (t.wait later) :=
  h.of_same (fun _ hbound => hbound) rfl rfl rfl rfl fun hover => ⟨hover, rfl⟩

/-- A shutdown is not yet the end of what was asked for. -/
theorem signal (h : Attends w r t) : Attends w r t.signal :=
  h.of_same (fun _ hbound => hbound) rfl rfl rfl rfl fun hover => ⟨hover, rfl⟩

/-! ### Keys are enqueued -/

/-- A request is the first that sees to it. -/
theorem of_enqueue (w : String) (r : InMemory) (t : Team Trigger Failure) :
    Attends w r (t.enqueue .workspaces) := by
  refine .asked ?_
  show lately _ (about _ ((Trigger.workspaces, QueueEvent.enqueued) :: t.course.log)) = true
  rw [about_cons_self, lately_cons]
  rfl

/-- Another request does not take anything away: what waits still waits, and what is under way still
is. -/
theorem enqueue (h : Attends w r t) (k : Trigger) : Attends w r (t.enqueue k) := by
  by_cases hk : k = .workspaces
  · rw [hk]
    exact of_enqueue w r t
  · exact h.of_same (fun _ hbound => hbound) (about_cons_of_ne hk _ _) rfl rfl rfl
      fun hover => ⟨hover, rfl⟩

/-- Neither do several other requests, by induction on them. -/
theorem enqueueAll (h : Attends w r t) (keys : List Trigger) : Attends w r (t.enqueueAll keys) := by
  induction keys generalizing t with
  | nil => exact h
  | cons k rest ih => exact ih (h.enqueue k)

/-- A sweep that is asked for will see to it. -/
theorem of_enqueueAll {keys : List Trigger} (hkeys : .workspaces ∈ keys) (w : String)
    (r : InMemory) (t : Team Trigger Failure) : Attends w r (t.enqueueAll keys) := by
  induction keys generalizing t with
  | nil => cases hkeys
  | cons k rest ih =>
    rcases List.mem_cons.mp hkeys with rfl | hrest
    · exact (of_enqueue w r t).enqueueAll rest
    · exact ih hrest (t.enqueue k)

/-! ### The controller does something -/

/-- A sweep is started for a request, and the others go on. -/
theorem serve (h : Attends w r t) {d : Controller Trigger Failure}
    {events : QueueLog Trigger Failure} {runs : List (Run Trigger)}
    (hbefore : t.course.controller.stage = .serving)
    (hrunning : d.running = t.course.controller.running ++ runs)
    (hevents : ∀ e ∈ events, e.2.isTakenUp = true) :
    Attends w r { t with course := { t.course with
      controller := d
      fresh := t.course.fresh ++ runs
      log := (runs.map fun run => (run.key, .started)).reverse ++
        (events.reverse ++ t.course.log) } } := by
  by_cases hstarted : .workspaces ∈ runs.map (·.key)
  · obtain ⟨run, hrun, hkey⟩ := List.mem_map.mp hstarted
    exact .started (List.mem_append_right _ hrun) hkey
  -- Only what was taken up is new about this key.
  have hstarts : about .workspaces (runs.map fun run =>
      (run.key, (QueueEvent.started : QueueEvent Failure))).reverse = [] := by
    refine List.eq_nil_iff_forall_not_mem.mpr fun e he => ?_
    obtain ⟨run, hrun, hentry⟩ := List.mem_map.mp (List.mem_reverse.mp (QueueLog.mem_of_about he))
    exact hstarted (List.mem_map.mpr ⟨run, hrun, congrArg Prod.fst hentry⟩)
  have htaken : ∀ e ∈ about .workspaces events.reverse, e.isTakenUp = true := fun e he =>
    hevents _ (List.mem_reverse.mp (QueueLog.mem_of_about he))
  obtain ⟨hlately, hlastOutcome⟩ := QueueLog.of_takenUp htaken (about .workspaces t.course.log)
  have habout : about .workspaces ((runs.map fun run =>
      (run.key, (QueueEvent.started : QueueEvent Failure))).reverse ++
        (events.reverse ++ t.course.log)) =
      about .workspaces events.reverse ++ about .workspaces t.course.log := by
    rw [about_append, hstarts, List.nil_append, about_append]
  cases h with
  | bound h => exact .bound h
  | covered htask hcovers => exact .covered htask hcovers
  | asked h => exact .asked ((congrArg _ habout).trans (hlately.trans h))
  | started hrun hkey => exact .started (List.mem_append_left _ hrun) hkey
  | failed hover hlast hleft =>
    refine .failed ?_ ((congrArg _ habout).trans (hlastOutcome.trans hlast)) hleft
    rw [hrunning, List.map_append, List.mem_append]
    exact not_or.mpr ⟨hover, hstarted⟩
  | givenUp hover =>
    rw [Controller.isOver, hbefore] at hover
    cases hover

/-- Whatever the controller does next, something still sees to it: the request, a sweep or a
retry. -/
theorem act (h : Attends w r t) (hmanned : t.Manned policy) : Attends w r (t.act policy) := by
  have hgoes : ∀ {c : Controller Trigger Failure}, c.stage = .collapsed ∨ c.stage = .stopped →
      c.isOver = true := by
    rintro c (hstage | hstage) <;> simp [Controller.isOver, hstage]
  have hacts := t.course.acts policy
  rw [Team.act]
  generalize t.course.act policy = course at hacts
  cases hacts with
  | idle =>
    refine h.of_same (fun _ hbound => hbound) rfl rfl ?_ rfl fun hover => ⟨hover, rfl⟩
    simp only
    split
    · rename_i hcollapsed
      exact (hmanned.tasks_of_isOver (hgoes (.inl hcollapsed))).symm
    · rfl
  | @collapse d hstage hrunning hbook =>
    have hactive : .workspaces ∈ t.course.controller.running.map (·.key) →
        d.book.active.contains .workspaces = true := by
      rw [hbook]
      exact hmanned.active_of_running
    cases h with
    | bound h => exact .bound h
    | asked h => exact .asked h
    | started hrun hkey =>
      exact .givenUp (hgoes (.inl hstage)) (hactive (hkey ▸ hmanned.running_of_fresh hrun))
    | covered htask =>
      exact .givenUp (hgoes (.inl hstage)) (hactive (hmanned.running_of_task htask))
    | failed _ hlast hleft =>
      refine .failed ?_ hlast hleft
      rw [hrunning]
      exact List.not_mem_nil
    | givenUp hover hactive =>
      rw [← hbook] at hactive
      exact .givenUp (hgoes (.inl hstage)) hactive
  | @leave d hstage hrunning hbook =>
    have hstays : d.stage ≠ .collapsed := by
      rcases hstage with ⟨hstage, -⟩ | hstage <;> simp [hstage]
    refine h.of_same (fun _ hbound => hbound) rfl rfl (if_neg hstays) hrunning fun hover => ?_
    rcases hstage with ⟨-, hserving⟩ | hstopped
    · rw [Controller.isOver, hserving] at hover
      cases hover
    · exact ⟨hgoes (.inr hstopped), hbook⟩
  | serve hbefore hstage hrunning hevents =>
    simp only [hstage]
    rw [if_neg (by decide)]
    exact h.serve hbefore hrunning hevents

/-! ### The sweeps -/

/-- A sweep that begins covers every workspace, as it has not listed anything yet. -/
theorem begin {config : DeploymentConfig} (h : Attends w r t) (i : Nat) :
    Attends w r (t.begin config.sweepJob i) := by
  rcases t.begin_cases config.sweepJob i with hsame | ⟨run, before, after, hfresh, hbegin⟩
  · rw [hsame]
    exact h
  rw [hbegin]
  cases h with
  | bound h => exact .bound h
  | asked h => exact .asked h
  | @started other hother hkey =>
    rw [hfresh] at hother
    rcases List.mem_append.mp hother with hother | hother
    · exact .started (List.mem_append_left _ hother) hkey
    rcases List.mem_cons.mp hother with rfl | hother
    · have hbegun : (Trigger.workspaces, Leg.connecting.rest .workspaces other.deadline) ∈
          t.tasks ++ [(other.key, config.sweepJob.reconcile other.key other.deadline)] := by
        rw [hkey]
        exact List.mem_append_right _ List.mem_cons_self
      exact .covered hbegun trivial
    · exact .started (List.mem_append_right _ hother) hkey
  | covered htask hcovers => exact .covered (List.mem_append_left _ htask) hcovers
  | failed hover hlast hleft => exact .failed hover hlast hleft
  | givenUp hover hactive => exact .givenUp hover hactive

/-- A sweep that takes a turn covers what it covered before. -/
theorem turn {wall : Instant → Timestamp} {posted : PostedWorld} (hsweeps : t.Each System.IsSweep)
    (hnamed : posted.world.remote.WellNamed) (htarget : posted.world.remote.IsTarget w)
    (h : Attends w posted.world.remote t) (i : Nat) (inTime : Bool) :
    Attends w (t.turn (PostedWorld.host wall) i inTime posted).2.world.remote
      (t.turn (PostedWorld.host wall) i inTime posted).1 := by
  rcases t.turn_cases (PostedWorld.host wall) i inTime posted with
    hsame | ⟨k, a, b, deed, later, before, after, htasks, hturn, hnext⟩
  · rw [hsame]
    exact h
  have hkeeps : posted.world.remote.KeepsBound later.world.remote := by
    obtain ⟨deadline, leg, rfl⟩ := hsweeps k a (by simp [htasks])
    obtain ⟨next, -, hmove⟩ := Leg.move_of_turn hturn
    exact (hmove.view (PostedWorld.views wall)).keepsBound
  rw [hnext]
  cases h with
  | bound h => exact .bound (hkeeps w h)
  | asked h => exact .asked h
  | started hrun hkey => exact .started hrun hkey
  | @covered deadline leg htask hcovers =>
    rw [htasks] at htask
    rcases List.mem_append.mp htask with htask | htask
    · exact .covered (List.mem_append_left _ htask) (hcovers.mono hkeeps)
    rcases List.mem_cons.mp htask with hself | htask
    · cases hself
      obtain ⟨next, rfl, hmove⟩ := Leg.move_of_turn hturn
      have hview := hmove.view (PostedWorld.views wall)
      exact .covered (List.mem_append_right _ List.mem_cons_self)
        (hview.covers hnamed htarget hcovers)
    · exact .covered (List.mem_append_right _ (List.mem_cons_of_mem _ htask))
        (hcovers.mono hkeeps)
  | failed hover hlast hleft => exact .failed hover hlast hleft
  | givenUp hover hactive => exact .givenUp hover hactive

/-- A sweep that covers a workspace and ends has left a binding there, or something to do. -/
theorem isBound_of_ends {a : Activity Unit (Except Failure Action)} {deadline : Instant}
    {leg : Leg Unit} {outcome : WorkspaceAccess.Outcome Failure}
    (ha : a = leg.rest .workspaces deadline) (hcovers : leg.Covers w r)
    (hends : Team.Ends a outcome) : r.IsBound w ∨ outcome ≠ .success .done := by
  cases hends with
  | cut => exact .inr nofun
  | result result =>
    obtain rfl := Leg.eq_ended_of_rest ha.symm
    cases result with
    | error e => exact .inr nofun
    | ok action => exact .inl (hcovers action rfl)

/-- A sweep ends. If it was the one that attended, it ended by writing the binding, or it is to be
tried again. -/
theorem finish (h : Attends w r t) (hmanned : t.Manned policy) (i : Nat) (cut : Bool) :
    Attends w r (t.finish i cut) := by
  rcases t.finish_cases i cut with hsame | ⟨k, a, outcome, before, after, htasks, hends, hfinish⟩
  · rw [hsame]
    exact h
  rw [hfinish]
  have hrunning := hmanned.running_remove htasks outcome
  cases h with
  | bound h => exact .bound h
  | asked h => exact .asked ((lately_about_cons rfl rfl k .workspaces t.course.log).trans h)
  | started hrun hkey => exact .started hrun hkey
  | covered htask hcovers =>
    rw [htasks] at htask
    rcases List.mem_append.mp htask with htask | htask
    · exact .covered (List.mem_append_left _ htask) hcovers
    rcases List.mem_cons.mp htask with hself | htask
    · obtain ⟨rfl, ha⟩ := Prod.mk.inj hself
      rcases isBound_of_ends ha.symm hcovers hends with hbound | hleft
      · exact .bound hbound
      · exact .failed (fun hmem => ((hrunning _).mp hmem).1 rfl)
          (congrArg lastOutcome? (about_cons_self _ _ _)) hleft
    · exact .covered (List.mem_append_right _ htask) hcovers
  | failed hover hlast hleft =>
    have hk : k ≠ .workspaces := by
      rintro rfl
      exact hover (hmanned.running_of_task (a := a) (by simp [htasks]))
    refine .failed (fun hmem => hover ((hrunning _).mp hmem).2) ?_ hleft
    exact (congrArg lastOutcome? (about_cons_of_ne hk _ _)).trans hlast
  | givenUp hover =>
    have hnone := hmanned.tasks_of_isOver hover
    rw [htasks] at hnone
    exact absurd hnone (by simp)

/-- Every step hands the task on: the workspace is bound, or something that will bind it waits or is
under way. One case for each kind of step. -/
theorem step {config : DeploymentConfig} {wall : Instant → Timestamp} {posted later : PostedWorld}
    {t' : Team Trigger Failure} (h : Attends w posted.world.remote t)
    (hmanned : t.Manned config.sweepJob.policy) (hsweeps : t.Each System.IsSweep)
    (hnamed : posted.world.remote.WellNamed) (htarget : posted.world.remote.IsTarget w)
    (hstep : Team.Step config.sweepJob (PostedWorld.host wall) t posted t' later) :
    Attends w later.world.remote t' := by
  cases hstep with
  | enqueue k => exact h.enqueue k
  | signal => exact h.signal
  | act => exact h.act hmanned
  | begin i => exact h.begin i
  | turn i inTime => exact turn hsweeps hnamed htarget h i inTime
  | finish i cut => exact h.finish hmanned i cut

end Attends

end Sweep

end WorkspaceAccess
