import Mathlib.Data.List.Perm.Basic
import WorkspaceAccess.Proofs.Deployment.Team

/-!
# Crews Are Teams

A crew of a simulation goes through its work in one order: what is due is resumed, then the
controller does everything that lies before it, then the reconciles that it started go on until they
wait. All of that are steps of a team, which may come in any other order as well. The crew keeps the
reconciles in the order in which they began to wait, the team does not care for their order
(`Crew.Fits`).

The world of the team need not be that of the crew, as long as it shadows it: whatever a call does
in the one, it does in the other, and the two stay related (`Host.Shadows`). This is what lets the
simulated world hear of changes at once, while the proofs are about one in which they are delivered
later.

`Crew.Fits` relates a crew that is in the middle of its work to a team. Some reconciles go on just
now, some are waiting to be resumed, and some that were started are waiting to begin; together they
are the reconciles of the team. Each function of the crew takes from one of these lists, and its
lemma says which steps of the team that is.

## Main results

* `Steps.of_turns`, `Steps.of_done`, `Team.Steps.settle`: what is done without a break, in steps of
  a team.
* `Fits.goOn`, `Fits.resume`, `Fits.begin`: a single reconcile goes on, is resumed, or begins.
* `Fits.resumeAll`, `Fits.beginAll`: the same for all of them, one after the other.
* `Fits.resumeDue`, `Fits.act`: a whole round of a crew is done in steps of the team.
* `isDoneInSteps_resumeDue`, `isDoneInSteps_act`: the same, for any related world.
-/

namespace WorkspaceAccess

variable {κ ε ω υ : Type} [KeyOrder κ]

/-! ### What is done in steps -/

namespace Team

variable {job : Job κ ε} {host : Host Unit υ} {t t' t'' : Team κ ε} {world world' world'' : υ}
  {now : Instant}

/-- Steps may follow one another, by induction on the later ones. -/
theorem Steps.trans (h : Steps job host t world t' world')
    (hmore : Steps job host t' world' t'' world'') : Steps job host t world t'' world'' := by
  induction hmore with
  | refl => exact h
  | next _ hstep ih => exact ih.next hstep

/-- The turns of a reconcile in flight are steps. -/
theorem Steps.of_turns {k : κ} {a b : Activity Unit (Except ε Action)}
    {before after : List (κ × Activity Unit (Except ε Action))}
    (hturns : Turns host now a world b world') {t : Team κ ε} (hnow : t.course.now = now)
    (htasks : t.tasks = before ++ (k, a) :: after) :
    Steps job host t world { t with tasks := before ++ (k, b) :: after } world' := by
  induction hturns generalizing t with
  | refl a world =>
    rw [← htasks]
    exact .refl
  | @step a b c deed world between later inTime hturn _ ih =>
    have hget : t.tasks[before.length]? = some (k, a) := by simp [htasks]
    have hset : t.tasks.set before.length (k, b) = before ++ (k, b) :: after := by simp [htasks]
    have hnext : t.turn host before.length inTime world =
        ({ t with tasks := before ++ (k, b) :: after }, between) := by
      rw [turn, hget]
      simp only [hnow, hturn, hset]
    have hstep : Step job host t world (t.turn host before.length inTime world).1
        (t.turn host before.length inTime world).2 := .turn t world before.length inTime
    rw [hnext] at hstep
    exact (Steps.refl.next hstep).trans (ih hnow rfl)

/-- A reconcile that has come to its result ends. -/
theorem Steps.of_done {k : κ} {result : Except ε Action}
    {before after : List (κ × Activity Unit (Except ε Action))}
    (htasks : t.tasks = before ++ (k, .done result) :: after) :
    Steps job host t world
      { course := t.course.finish k (.ofResult result), tasks := before ++ after } world := by
  have hget : t.tasks[before.length]? = some (k, .done result) := by simp [htasks]
  have herase : t.tasks.eraseIdx before.length = before ++ after := by
    simp [htasks, List.eraseIdx_append_of_length_le]
  have hnext : t.finish before.length false =
      { course := t.course.finish k (.ofResult result), tasks := before ++ after } := by
    rw [finish, hget, ← herase]
    rfl
  rw [← hnext]
  exact Steps.refl.next (.finish t world before.length false)

/-- A step of the controller is what a team does when it acts, with the runs that are started
waiting to begin. -/
theorem act_of_step {policy : QueuePolicy ε} {d : Controller κ ε} {runs : List (Run κ)}
    (h : t.course.controller.step? policy t.course.now = some (d, runs)) :
    (t.act policy).course.controller = d ∧ (t.act policy).course.now = t.course.now ∧
      (t.act policy).course.fresh =
        (if d.stage = .collapsed then [] else t.course.fresh ++ runs) ∧
      (t.act policy).tasks = if d.stage = .collapsed then [] else t.tasks := by
  simp [act, Course.act, h]

/-- With nothing left to do a controller stays as it is. -/
theorem act_of_none {policy : QueuePolicy ε}
    (h : t.course.controller.step? policy t.course.now = none) :
    (t.act policy).course = t.course ∧
      (t.act policy).tasks = if t.course.controller.stage = .collapsed then [] else t.tasks := by
  simp [act, Course.act, h]

end Team

/-- A controller that collapses was not told to shut down. -/
theorem Controller.step?_eq_none_of_collapsed {policy : QueuePolicy ε} {now : Instant}
    {c d : Controller κ ε} {runs : List (Run κ)} (h : c.step? policy now = some (d, runs))
    (hcollapsed : d.stage = .collapsed) : d.step? policy now = none := by
  rw [step?] at h
  cases hstage : c.stage with
  | serving =>
    simp only [hstage] at h
    split at h
    · cases h
      cases hcollapsed
    split at h
    · rename_i hsignalled _
      cases h
      simp [step?, collapse, hsignalled]
    · obtain ⟨e, htake, hdispatch⟩ := Option.map_eq_some_iff.mp h
      have hframe := dispatch_frame policy now e
      rw [hdispatch] at hframe
      have hserving := hframe.2.2.2.1.trans ((History.stage_takeUp? htake).trans hstage)
      rw [hcollapsed] at hserving
      cases hserving
  | draining | collapsed =>
    simp only [hstage] at h
    split at h
    · cases h
      cases hcollapsed
    · cases h
  | stopped => simp [hstage] at h

/-- A collapse gives up the reconciles that were started. -/
theorem Controller.runs_settle_of_collapsed (policy : QueuePolicy ε) (now : Instant)
    (c : Controller κ ε) (h : (c.settle policy now).1.stage = .collapsed) :
    (c.settle policy now).2 = [] := by
  unfold settle at h ⊢
  split at h
  · rfl
  · exact if_pos h

/-- Everything that lies before a controller is done in steps. -/
theorem Team.Steps.settle (job : Job κ ε) (host : Host Unit υ) (world : υ) {now : Instant}
    (c : Controller κ ε) {t : Team κ ε} (hcontroller : t.course.controller = c)
    (hnow : t.course.now = now) (hfresh : c.stage = .collapsed → t.course.fresh = []) :
    ∃ t', Steps job host t world t' world ∧ t'.course.now = now ∧
      t'.course.controller = (c.settle job.policy now).1 ∧
      t'.course.fresh = (if (c.settle job.policy now).1.stage = .collapsed then []
        else t.course.fresh ++ (c.settle job.policy now).2) ∧
      t'.tasks = if (c.settle job.policy now).1.stage = .collapsed then [] else t.tasks := by
  fun_induction Controller.settle job.policy now c generalizing t with
  | case1 c hnone =>
    subst hcontroller hnow
    obtain ⟨hcourse, htasks⟩ := act_of_none hnone
    refine ⟨t.act job.policy, Steps.refl.next (.act t world), ?_, ?_, ?_, htasks⟩
    · rw [hcourse]
    · rw [hcourse]
    · rw [hcourse]
      split
      · exact hfresh ‹_›
      · exact (List.append_nil _).symm
  | case2 c d runs hstep _ e more hsettle ih =>
    subst hcontroller hnow
    obtain ⟨hd, hnow, hstarted, hkept⟩ := act_of_step hstep
    obtain ⟨t', hsteps, hlater, he, hfresh', htasks'⟩ := ih hd hnow fun hcollapsed => by
      rw [hstarted, if_pos hcollapsed]
    have hall := (Steps.refl.next (.act t world)).trans hsteps
    rw [hsettle] at he hfresh' htasks'
    simp only at he hfresh' htasks' ⊢
    by_cases hcollapsed : e.stage = .collapsed
    · simp only [if_pos hcollapsed] at hfresh' htasks' ⊢
      exact ⟨t', hall, hlater, he, hfresh', htasks'⟩
    -- It has not collapsed before either, as it would have stayed so.
    have hgoes : d.stage ≠ .collapsed := by
      intro hd
      rw [Controller.settle_of_none (Controller.step?_eq_none_of_collapsed hstep hd)] at hsettle
      exact hcollapsed ((Prod.mk.inj hsettle).1 ▸ hd)
    simp only [if_neg hcollapsed] at hfresh' htasks' ⊢
    rw [hstarted, if_neg hgoes, List.append_assoc] at hfresh'
    rw [hkept, if_neg hgoes] at htasks'
    exact ⟨t', hall, hlater, he, hfresh', htasks'⟩

/-! ### Crews -/

/-- A reconcile that waits is what is left of one. -/
def Task.IsAt (task : Task κ ε) (x : κ × Activity Unit (Except ε Action)) : Prop :=
  task.key = x.1 ∧ task.pause.IsAt x.2

namespace Crew

/-- A crew is a team in which some more reconciles go on just now, some are waiting to be resumed,
and some that were started are waiting to begin. -/
structure Fits (now : Instant) (crew : Crew κ ε)
    (current : List (κ × Activity Unit (Except ε Action))) (due : List (Task κ ε))
    (fresh : List (Run κ)) (t : Team κ ε) : Prop where
  /-- The time is the same in both. -/
  now : t.course.now = now
  /-- The controller is the same, with all of its books. -/
  controller : t.course.controller = crew.controller
  /-- Which reconciles were started and have not begun. -/
  fresh : t.course.fresh = fresh
  /-- The reconciles in flight are the same, in some order. -/
  tasks : ∃ l, (current ++ l).Perm t.tasks ∧ List.Forall₂ Task.IsAt (due ++ crew.tasks) l

variable {job : Job κ ε} {host : Host Unit ω} {other : Host Unit υ} {R : ω → υ → Prop}
  {now : Instant} {crew : Crew κ ε} {due : List (Task κ ε)} {fresh : List (Run κ)} {t : Team κ ε}
  {world : ω} {shadow : υ} {k : κ} {a : Activity Unit (Except ε Action)}

/-- A reconcile has come to its end, or to a wait. -/
theorem Fits.record {progress : Progress Unit (Except ε Action)} (hprogress : progress.IsAt a)
    (h : crew.Fits now [(k, a)] due fresh t) :
    ∃ t', Team.Steps job other t shadow t' shadow ∧
      (crew.record now k progress).Fits now [] due fresh t' := by
  obtain ⟨hnow, hcontroller, hfresh, l, hperm, hrest⟩ := h
  cases progress with
  | ended result =>
    obtain rfl : a = .done result := hprogress
    obtain ⟨before, after, htasks⟩ :=
      List.append_of_mem (hperm.mem_iff.mp List.mem_cons_self)
    have hl : l.Perm (before ++ after) := by
      rw [htasks] at hperm
      exact (hperm.trans List.perm_middle).cons_inv
    refine ⟨_, .of_done htasks, hnow, ?_, hfresh, l, hl, hrest⟩
    rw [Crew.record, Course.finish, hcontroller, hnow]
  | paused pause =>
    refine ⟨t, .refl, hnow, hcontroller, hfresh, l ++ [(k, a)], ?_, ?_⟩
    · exact (List.perm_append_singleton _ _).trans hperm
    · rw [Crew.record, ← List.append_assoc]
      exact List.rel_append hrest (.cons ⟨rfl, hprogress⟩ .nil)

/-- A reconcile goes on until it ends or has to wait. -/
theorem Fits.goOn (hshadows : host.Shadows other R) (hR : R world shadow)
    {b : Activity Unit (Except ε Action)} {progress : Progress Unit (Except ε Action)} {later : ω}
    (hturns : Turns host now a world b later) (hprogress : progress.IsAt b)
    (h : crew.Fits now [(k, a)] due fresh t) :
    ∃ t' shadow', Team.Steps job other t shadow t' shadow' ∧ R later shadow' ∧
      (crew.record now k progress).Fits now [] due fresh t' := by
  obtain ⟨hnow, hcontroller, hfresh, l, hperm, hrest⟩ := h
  obtain ⟨shadow', hothers, hlater⟩ := hturns.shadow hshadows hR
  obtain ⟨before, after, htasks⟩ := List.append_of_mem (hperm.mem_iff.mp List.mem_cons_self)
  let turned : Team κ ε := { t with tasks := before ++ (k, b) :: after }
  have hsteps : Team.Steps job other t shadow turned shadow' := .of_turns hothers hnow htasks
  have hturned : crew.Fits now [(k, b)] due fresh turned := by
    refine ⟨hnow, hcontroller, hfresh, l, ?_, hrest⟩
    rw [htasks] at hperm
    exact ((hperm.trans List.perm_middle).cons_inv.cons _).trans List.perm_middle.symm
  obtain ⟨t', hmore, hfits⟩ := hturned.record hprogress
  exact ⟨t', shadow', hsteps.trans hmore, hlater, hfits⟩

/-- A reconcile that is due is resumed, in the crew and in the team alike, and goes on to its next
wait or to its end. -/
theorem Fits.resume (hshadows : host.Shadows other R) (hR : R world shadow) {task : Task κ ε}
    (h : crew.Fits now [] (task :: due) fresh t) :
    ∃ t' shadow', Team.Steps job other t shadow t' shadow' ∧
      R (task.pause.resume host world now).2 shadow' ∧
      (crew.record now task.key (task.pause.resume host world now).1).Fits now [] due fresh t' := by
  obtain ⟨hnow, hcontroller, hfresh, l, hperm, hall⟩ := h
  cases hall with
  | @cons _ x _ rest hx hrest =>
    obtain ⟨k, a⟩ := x
    obtain ⟨rfl, hat⟩ := hx
    have hcurrent : crew.Fits now [(task.key, a)] due fresh t :=
      ⟨hnow, hcontroller, hfresh, rest, hperm, hrest⟩
    obtain ⟨b, hturns, hb⟩ :=
      turns_resume hat (rfl : task.pause.resume host world now = (_, _))
    exact hcurrent.goOn hshadows hR hturns hb

/-- A reconcile that was started begins, and goes on to its first wait or to its end. -/
theorem Fits.begin (hshadows : host.Shadows other R) (hR : R world shadow) {run : Run κ}
    (h : crew.Fits now [] [] (run :: fresh) t) :
    let begun : Crew κ ε := { crew with controller := crew.controller.beginRun }
    let result := (job.reconcile run.key run.deadline).proceed host world now
    ∃ t' shadow', Team.Steps job other t shadow t' shadow' ∧ R result.2 shadow' ∧
      (begun.record now run.key result.1).Fits now [] [] fresh t' := by
  intro begun result
  obtain ⟨hnow, hcontroller, hfresh, l, hperm, hall⟩ := h
  let joined : Team κ ε :=
    { course := { t.course with controller := t.course.controller.beginRun, fresh := fresh }
      tasks := t.tasks ++ [(run.key, job.reconcile run.key run.deadline)] }
  have hbegin : t.begin job 0 = joined := by
    rw [Team.begin, hfresh]
    rfl
  have hsteps : Team.Steps job other t shadow joined shadow :=
    hbegin ▸ Team.Steps.refl.next (.begin t shadow 0)
  have hcurrent : begun.Fits now [(run.key, job.reconcile run.key run.deadline)] [] fresh joined :=
    ⟨hnow, congrArg Controller.beginRun hcontroller, rfl, l,
      (hperm.cons _).trans (List.perm_append_singleton _ _).symm, hall⟩
  obtain ⟨b, hturns, hb⟩ := turns_proceed (job.reconcile run.key run.deadline)
    (rfl : (job.reconcile run.key run.deadline).proceed host world now = (_, _))
  obtain ⟨t', shadow', hmore, hlater, hfits⟩ := hcurrent.goOn hshadows hR hturns hb
  exact ⟨t', shadow', hsteps.trans hmore, hlater, hfits⟩

/-- The reconciles that are waiting to be resumed are resumed one after the other. -/
theorem Fits.resumeAll (hshadows : host.Shadows other R) (hR : R world shadow)
    (h : crew.Fits now [] due fresh t) :
    let resumed := due.foldl (fun (s : Crew κ ε × ω) task =>
      (s.1.record now task.key (task.pause.resume host s.2 now).1,
        (task.pause.resume host s.2 now).2)) (crew, world)
    ∃ t' shadow', Team.Steps job other t shadow t' shadow' ∧ R resumed.2 shadow' ∧
      resumed.1.Fits now [] [] fresh t' := by
  induction due generalizing crew world shadow t with
  | nil => exact ⟨t, shadow, .refl, hR, h⟩
  | cons task due ih =>
    obtain ⟨t', shadow', hfirst, hR', hfits⟩ := h.resume hshadows hR
    obtain ⟨t'', shadow'', hrest, hR'', hfits⟩ := ih hR' hfits
    exact ⟨t'', shadow'', hfirst.trans hrest, hR'', hfits⟩

/-- All reconciles that are due are resumed, one after the other, which in the team are as many
steps. -/
theorem Fits.resumeDue (hshadows : host.Shadows other R) (hR : R world shadow)
    (h : crew.Fits now [] [] [] t) :
    ∃ t' shadow', Team.Steps job other t shadow t' shadow' ∧
      R (crew.resumeDue host now world).2 shadow' ∧
      (crew.resumeDue host now world).1.Fits now [] [] [] t' := by
  obtain ⟨hnow, hcontroller, hfresh, l, hperm, hall⟩ := h
  rw [Crew.resumeDue, List.partition_eq_filter_filter]
  have hsplit := List.filter_append_perm (fun task : Task κ ε => decide (task.pause.time ≤ now))
    crew.tasks
  obtain ⟨l', hall', hl'⟩ := List.perm_comp_forall₂ hsplit hall
  exact Fits.resumeAll hshadows hR ⟨hnow, hcontroller, hfresh, l', hl'.trans hperm, hall'⟩

/-- The reconciles that were started begin one after the other. -/
theorem Fits.beginAll (hshadows : host.Shadows other R) (hR : R world shadow)
    (h : crew.Fits now [] [] fresh t) :
    let begun := fresh.foldl (fun (s : Crew κ ε × ω) run =>
      let result := (job.reconcile run.key run.deadline).proceed host s.2 now
      (({ s.1 with controller := s.1.controller.beginRun } : Crew κ ε).record now run.key result.1,
        result.2)) (crew, world)
    ∃ t' shadow', Team.Steps job other t shadow t' shadow' ∧ R begun.2 shadow' ∧
      begun.1.Fits now [] [] [] t' := by
  induction fresh generalizing crew world shadow t with
  | nil => exact ⟨t, shadow, .refl, hR, h⟩
  | cons run fresh ih =>
    obtain ⟨t', shadow', hfirst, hR', hfits⟩ := h.begin hshadows hR
    obtain ⟨t'', shadow'', hrest, hR'', hfits⟩ := ih hR' hfits
    exact ⟨t'', shadow'', hfirst.trans hrest, hR'', hfits⟩

/-- The controller does what lies before it, and the reconciles that it starts begin. -/
theorem Fits.act (hshadows : host.Shadows other R) (hR : R world shadow)
    (h : crew.Fits now [] [] [] t) :
    ∃ t' shadow', Team.Steps job other t shadow t' shadow' ∧
      R (crew.act job host now world).2 shadow' ∧
      (crew.act job host now world).1.Fits now [] [] [] t' := by
  obtain ⟨hnow, hcontroller, hfresh, l, hperm, hall⟩ := h
  obtain ⟨t', hsettled, hlater, he, hstarted, htasks⟩ :=
    Team.Steps.settle job other shadow crew.controller hcontroller hnow fun _ => hfresh
  have hruns := Controller.runs_settle_of_collapsed job.policy now crew.controller
  rw [Crew.act]
  rcases hsettle : crew.controller.settle job.policy now with ⟨e, runs⟩
  simp only [hsettle, hfresh, List.nil_append] at he hstarted htasks hruns ⊢
  have hfits : Crew.Fits now { controller := e, tasks := if e.stage = .collapsed then [] else
      crew.tasks } [] [] runs t' := by
    by_cases hcollapsed : e.stage = .collapsed
    · simp only [if_pos hcollapsed] at hstarted htasks ⊢
      rw [hruns hcollapsed]
      exact ⟨hlater, he, hstarted, [], by rw [htasks]; exact .refl _, .nil⟩
    · simp only [if_neg hcollapsed] at hstarted htasks ⊢
      exact ⟨hlater, he, hstarted, l, htasks ▸ hperm, hall⟩
  obtain ⟨t'', shadow', hbegun, hR', hfits'⟩ := Fits.beginAll hshadows hR hfits
  exact ⟨t'', shadow', hsettled.trans hbegun, hR', hfits'⟩

/-! ### What comes from outside -/

/-- A new crew is a new team: neither has anything in flight. -/
theorem Fits.initial (now : Instant) :
    Crew.Fits now ({} : Crew κ ε) [] [] [] { course := { now } } :=
  ⟨rfl, rfl, rfl, [], .refl _, .nil⟩

/-- Time goes by for both alike, and nothing else happens. -/
theorem Fits.wait (h : crew.Fits now [] [] [] t) (later : Instant) :
    crew.Fits later [] [] [] (t.wait later) :=
  ⟨rfl, h.controller, h.fresh, h.tasks⟩

/-- The controller is told to shut down, in both alike. -/
theorem Fits.signal (h : crew.Fits now [] [] [] t) : crew.signal.Fits now [] [] [] t.signal :=
  ⟨h.now, congrArg Controller.signal h.controller, h.fresh, h.tasks⟩

/-- Keys are enqueued in both alike, in the same order. -/
theorem Fits.enqueueAll (h : crew.Fits now [] [] [] t) (keys : List κ) :
    (crew.enqueueAll keys).Fits now [] [] [] (t.enqueueAll keys) := by
  induction keys generalizing crew t with
  | nil =>
    have hsame : crew.enqueueAll [] = crew := by
      rw [Crew.enqueueAll, Controller.enqueueAll, List.append_nil]
    rw [hsame]
    exact h
  | cons k rest ih =>
    have hfirst : Crew.Fits now { crew with controller := crew.controller.enqueue k } [] [] []
        (t.enqueue k) :=
      ⟨h.now, congrArg (Controller.enqueue · k) h.controller, h.fresh, h.tasks⟩
    have hall := ih hfirst
    rw [Crew.enqueueAll, Controller.enqueueAll, Controller.enqueue, List.append_assoc] at hall
    exact hall

/-! ### What is done in steps -/

/-- What a crew does in its world is done in steps of a team in another world. -/
def IsDoneInSteps (job : Job κ ε) (other : Host Unit υ) (R : ω → υ → Prop) (now : Instant)
    (f : Crew κ ε → ω → Crew κ ε × ω) : Prop :=
  ∀ {crew : Crew κ ε} {world : ω} {t : Team κ ε} {shadow : υ}, R world shadow →
    crew.Fits now [] [] [] t → ∃ t' shadow', Team.Steps job other t shadow t' shadow' ∧
      R (f crew world).2 shadow' ∧ (f crew world).1.Fits now [] [] [] t'

/-- Resuming all that is due is done in steps, in any world that shadows that of the crew. -/
theorem isDoneInSteps_resumeDue (hshadows : host.Shadows other R) (job : Job κ ε)
    (now : Instant) : IsDoneInSteps job other R now (resumeDue host now) :=
  fun hR hfits => hfits.resumeDue hshadows hR

/-- So is all that the controller does, with what the reconciles do that it starts. -/
theorem isDoneInSteps_act (hshadows : host.Shadows other R) (job : Job κ ε) (now : Instant) :
    IsDoneInSteps job other R now (act job host now) :=
  fun hR hfits => hfits.act hshadows hR

end Crew

end WorkspaceAccess
