import WorkspaceAccess.Proofs.Queue.Quiet
import WorkspaceAccess.Proofs.Reconcile.Turn
import WorkspaceAccess.Simulation.Crew

/-!
# A Controller and Its Reconciles

A team is a controller in its course, with what is left of each of its reconciles in flight. In a
world that it may share with others the controller does its steps, reconciles that were started
begin, take their turns and end, or are cut short, and keys are enqueued from outside, in any order.

The course of a controller leaves open how its reconciles end. In a team they are activities: one
ends with an outcome when that is what its activity has come to, or it is cut short as by a panic,
at any of its turns. So a team is a course whose outcomes are explained by what was done in the
world.

The controller knows its reconciles by their runs, and the team by their activities. That these are
the same reconciles has to be shown (`Team.Manned`): the keys of those that have begun, with the
keys of those that were started and have not begun, are the keys of the runs. They are different
keys, as no key is reconciled twice at once, so that an end that is reported for a key is the end of
its one activity.

## Main results

* `Course.acts`: what the next thing that a controller does makes of its course.
* `steps_round`, `Steps.turns`: a reconcile that is started, comes to its end and is taken up, in
  steps.
* `begin_cases`, `turn_cases`, `finish_cases`, `Step.world_cases`: what a step does.
* `Manned.remove`: a reconcile in flight may end, and then it is in flight no longer.
* `Step.manned`: every step keeps a team manned.
* `Step.each`: what reconciles have in common they keep in every step.
-/

namespace WorkspaceAccess

/-! ### What a controller does -/

section

variable {κ ε : Type} [KeyOrder κ] {policy : QueuePolicy ε} {now : Instant}

namespace QueueLog

/-- What is taken up does not show which keys were enqueued, or how reconciles ended. -/
theorem of_takenUp {events : List (QueueEvent ε)} (h : ∀ e ∈ events, e.isTakenUp = true)
    (earlier : List (QueueEvent ε)) :
    lately QueueEvent.isEnqueued (events ++ earlier) = lately QueueEvent.isEnqueued earlier ∧
      lastOutcome? (events ++ earlier) = lastOutcome? earlier := by
  induction events with
  | nil => exact ⟨rfl, rfl⟩
  | cons e events ih =>
    obtain ⟨hlately, hlast⟩ := ih fun f hf => h f (List.mem_cons_of_mem e hf)
    rw [List.cons_append, lately_cons, hlately]
    cases e with
    | received | retried | completed => exact ⟨rfl, hlast⟩
    | enqueued | started | ended => cases h _ List.mem_cons_self

end QueueLog

/-- What the next thing that a controller does makes of its course. -/
inductive Course.Acts : Course κ ε → Course κ ε → Prop
  /-- Nothing lies before it, and its course is as it was. -/
  | idle (s : Course κ ε) : Acts s s
  /-- It collapses: nothing runs any more, and nothing that was started will begin. -/
  | collapse (s : Course κ ε) {d : Controller κ ε} (hstage : d.stage = .collapsed)
      (hrunning : d.running = []) (hbook : d.book = s.controller.book) :
      Acts s { s with controller := d, fresh := [] }
  /-- It leaves off starting reconciles, or stops; what runs goes on running. -/
  | leave (s : Course κ ε) {d : Controller κ ε}
      (hstage : d.stage = .draining ∧ s.controller.stage = .serving ∨ d.stage = .stopped)
      (hrunning : d.running = s.controller.running) (hbook : d.book = s.controller.book) :
      Acts s { s with controller := d }
  /-- It takes something up and starts reconciles, which run from now on and are yet to begin. -/
  | serve (s : Course κ ε) {d : Controller κ ε} {events : QueueLog κ ε} {runs : List (Run κ)}
      (hbefore : s.controller.stage = .serving) (hstage : d.stage = .serving)
      (hrunning : d.running = s.controller.running ++ runs)
      (hevents : ∀ e ∈ events, e.2.isTakenUp = true) :
      Acts s { s with
        controller := d
        fresh := s.fresh ++ runs
        log := (runs.map fun run => (run.key, .started)).reverse ++ (events.reverse ++ s.log) }

/-- A step of a controller is one of these. -/
theorem Course.acts (policy : QueuePolicy ε) (s : Course κ ε) : Acts s (s.act policy) := by
  rw [act]
  split
  · exact .idle s
  rename_i d runs hstep
  rw [Controller.step?] at hstep
  rw [Controller.doings]
  cases hstage : s.controller.stage with
  | serving =>
    simp only [hstage] at hstep
    split at hstep
    · rename_i hsignalled
      cases hstep
      simpa [hsignalled] using Acts.leave s (d := { s.controller with stage := .draining })
        (.inl ⟨rfl, hstage⟩) rfl rfl
    split at hstep
    · rename_i hover
      cases hstep
      simpa [hover, Controller.collapse] using
        Acts.collapse s (d := s.controller.collapse) rfl rfl rfl
    · rename_i hsignalled hover
      obtain ⟨e, htake, hdispatch⟩ := Option.map_eq_some_iff.mp hstep
      have hserving : e.stage = .serving := (History.stage_takeUp? htake).trans hstage
      have hframe := Controller.dispatch_frame policy s.now e
      have hrunning := Controller.running_startUpTo policy s.now
        (max policy.workers 1 - e.inFlight) e
      rw [Controller.dispatch] at hdispatch hframe
      rw [hdispatch] at hframe hrunning
      have hd : d.stage = .serving := hframe.2.2.2.1.trans hserving
      rw [Controller.running_of_takeUp? htake] at hrunning
      have hevents : ∀ e ∈ s.controller.takenUp policy s.now, e.2.isTakenUp = true :=
        fun e he => Controller.isTakenUp_of_mem he
      simpa [hsignalled, hover, hd] using Acts.serve s hstage hd hrunning hevents
  | draining =>
    simp only [hstage] at hstep
    split at hstep
    · cases hstep
      simpa using Acts.leave s (d := { s.controller with stage := .stopped }) (.inr rfl) rfl
        rfl
    · cases hstep
  | collapsed =>
    simp only [hstage] at hstep
    split at hstep
    · cases hstep
      simpa using Acts.leave s (d := { s.controller with stage := .stopped }) (.inr rfl) rfl
        rfl
    · cases hstep
  | stopped => simp [hstage] at hstep

end

/-! ### Teams -/

/-- A place in a list splits it in two. -/
theorem split_of_getElem? {α : Type} {l : List α} {i : Nat} {x : α} (h : l[i]? = some x) :
    ∃ before after, l = before ++ x :: after ∧ (∀ y, l.set i y = before ++ y :: after) ∧
      l.eraseIdx i = before ++ after := by
  obtain ⟨hi, rfl⟩ := List.getElem?_eq_some_iff.mp h
  refine ⟨l.take i, l.drop (i + 1), by simp, fun y => ?_, List.eraseIdx_eq_take_drop_succ l i⟩
  rw [List.set_eq_take_append_cons_drop, if_pos hi]

/-- A controller in its course, and what is left of its reconciles in flight, by their keys. -/
structure Team (κ ε : Type) [KeyOrder κ] where
  /-- The course of the controller, which knows its reconciles by their runs. -/
  course : Course κ ε
  /-- The reconciles that have begun and not ended. -/
  tasks : List (κ × Activity Unit (Except ε Action)) := []

namespace Team

variable {κ ε ω : Type} [KeyOrder κ]

/-- A key is enqueued, which its controller will take from the inbox. -/
def enqueue (t : Team κ ε) (k : κ) : Team κ ε := { t with course := t.course.enqueue k }

/-- Several keys are enqueued, in this order, as if one after the other. -/
def enqueueAll (t : Team κ ε) (keys : List κ) : Team κ ε := keys.foldl enqueue t

/-- The controller is told to shut down, which it notices when it acts. -/
def signal (t : Team κ ε) : Team κ ε :=
  { t with course := { t.course with controller := t.course.controller.signal } }

/-- Time goes by; the reconciles that wait do not notice. -/
def wait (t : Team κ ε) (later : Instant) : Team κ ε :=
  { t with course := { t.course with now := later } }

/-- The controller does the next thing that lies before it; when it collapses, all reconciles are
given up. -/
def act (policy : QueuePolicy ε) (t : Team κ ε) : Team κ ε :=
  let course := t.course.act policy
  { course, tasks := if course.controller.stage = .collapsed then [] else t.tasks }

/-- A reconcile that was started begins, with all of its activity before it. -/
def begin (job : Job κ ε) (i : Nat) (t : Team κ ε) : Team κ ε :=
  match t.course.fresh[i]? with
  | none => t
  | some run =>
    { course := { t.course with
        controller := t.course.controller.beginRun
        fresh := t.course.fresh.eraseIdx i }
      tasks := t.tasks ++ [(run.key, job.reconcile run.key run.deadline)] }

/-- A reconcile takes a turn: its next call is answered or given up, or it looks at the clocks. -/
def turn (host : Host Unit ω) (i : Nat) (inTime : Bool) (t : Team κ ε) (world : ω) :
    Team κ ε × ω :=
  match t.tasks[i]? with
  | none => (t, world)
  | some (k, a) =>
    match a.turn? host t.course.now inTime world with
    | none => (t, world)
    | some (b, _, later) => ({ t with tasks := t.tasks.set i (k, b) }, later)

/-- How a reconcile ends: by its result, or because it is cut short. -/
inductive Ends : Activity Unit (Except ε Action) → Outcome ε → Prop
  /-- It has come to its result, which is its outcome. -/
  | result (r : Except ε Action) : Ends (.done r) (.ofResult r)
  /-- It is cut short as by a panic, wherever it stands. -/
  | cut (a : Activity Unit (Except ε Action)) : Ends a .panic

/-- The outcome of a reconcile that is cut short, or that has come to its result. -/
def outcome? (cut : Bool) (a : Activity Unit (Except ε Action)) : Option (Outcome ε) :=
  match cut, a with
  | true, _ => some .panic
  | false, .done r => some (.ofResult r)
  | false, _ => none

/-- A reconcile ends, because it has come to its result or because it is cut short. -/
def finish (i : Nat) (cut : Bool) (t : Team κ ε) : Team κ ε :=
  match t.tasks[i]? with
  | none => t
  | some (k, a) =>
    match outcome? cut a with
    | none => t
    | some outcome => { course := t.course.finish k outcome, tasks := t.tasks.eraseIdx i }

/-- What a team may do next, and what others may do to it. -/
inductive Step (job : Job κ ε) (host : Host Unit ω) :
    Team κ ε → ω → Team κ ε → ω → Prop
  /-- A key is enqueued from outside. -/
  | enqueue (t : Team κ ε) (world : ω) (k : κ) : Step job host t world (t.enqueue k) world
  /-- The controller is told to shut down, once or again. -/
  | signal (t : Team κ ε) (world : ω) : Step job host t world t.signal world
  /-- The controller does the next thing that lies before it. -/
  | act (t : Team κ ε) (world : ω) : Step job host t world (t.act job.policy) world
  /-- A reconcile that was started begins, unless there is none at that place. -/
  | begin (t : Team κ ε) (world : ω) (i : Nat) : Step job host t world (t.begin job i) world
  /-- A reconcile takes a turn, its call answered in time or given up. -/
  | turn (t : Team κ ε) (world : ω) (i : Nat) (inTime : Bool) :
    Step job host t world (t.turn host i inTime world).1 (t.turn host i inTime world).2
  /-- A reconcile ends, if it is at its end or is cut short. -/
  | finish (t : Team κ ε) (world : ω) (i : Nat) (cut : Bool) :
    Step job host t world (t.finish i cut) world

/-- What comes about by some steps. -/
inductive Steps (job : Job κ ε) (host : Host Unit ω) (t : Team κ ε) (world : ω) :
    Team κ ε → ω → Prop
  /-- Nothing has happened, and team and world are as they were. -/
  | refl : Steps job host t world t world
  /-- Something more happens after some steps. -/
  | next {t' t'' : Team κ ε} {world' world'' : ω} (h : Steps job host t world t' world')
      (step : Step job host t' world' t'' world'') : Steps job host t world t'' world''

/-- The first reconcile takes some turns, and all its calls are answered. -/
def turns (host : Host Unit ω) : Nat → Team κ ε × ω → Team κ ε × ω
  | 0, s => s
  | n + 1, (t, world) => turns host n (t.turn host 0 true world)

/-- The controller starts a reconcile, which comes to its end, and takes up the end. -/
def round (job : Job κ ε) (host : Host Unit ω) (n : Nat) (t : Team κ ε) (world : ω) :
    Team κ ε × ω :=
  let (t, world) := turns host n ((t.act job.policy).begin job 0, world)
  ((t.finish 0 false).act job.policy, world)

variable {job : Job κ ε} {host : Host Unit ω} {t : Team κ ε} {world : ω} {i : Nat}

/-- Turns are steps, as many as there are of them. -/
theorem Steps.turns {s : Team κ ε × ω} (h : Steps job host t world s.1 s.2) (n : Nat) :
    Steps job host t world (turns host n s).1 (turns host n s).2 := by
  induction n generalizing s with
  | zero => exact h
  | succ n ih => exact ih (h.next (.turn s.1 s.2 0 true))

/-- All of a round are steps, so what every step keeps is kept by rounds. -/
theorem steps_round (job : Job κ ε) (host : Host Unit ω) (n : Nat) (t : Team κ ε) (world : ω) :
    Steps job host t world (t.round job host n world).1 (t.round job host n world).2 := by
  have hbegun : Steps job host t world ((t.act job.policy).begin job 0) world :=
    (Steps.refl.next (.act t world)).next (.begin _ world 0)
  exact ((hbegun.turns (s := (_, world)) n).next (.finish _ _ 0 false)).next (.act _ _)

/-! ### What a step does -/

/-- Nothing begins, or a reconcile that was started, which then is in flight with all of its
activity. -/
theorem begin_cases (job : Job κ ε) (i : Nat) (t : Team κ ε) :
    t.begin job i = t ∨ ∃ run before after, t.course.fresh = before ++ run :: after ∧
      t.begin job i =
        { course := { t.course with
            controller := t.course.controller.beginRun, fresh := before ++ after }
          tasks := t.tasks ++ [(run.key, job.reconcile run.key run.deadline)] } := by
  rw [begin]
  split
  · exact .inl rfl
  · rename_i run hrun
    obtain ⟨before, after, hsplit, -, herase⟩ := split_of_getElem? hrun
    exact .inr ⟨run, before, after, hsplit, by rw [herase]⟩

/-- A turn changes nothing, or it is one of a reconcile in flight. -/
theorem turn_cases (host : Host Unit ω) (i : Nat) (inTime : Bool) (t : Team κ ε) (world : ω) :
    t.turn host i inTime world = (t, world) ∨
      ∃ k a b deed later before after, t.tasks = before ++ (k, a) :: after ∧
        a.turn? host t.course.now inTime world = some (b, deed, later) ∧
        t.turn host i inTime world = ({ t with tasks := before ++ (k, b) :: after }, later) := by
  rw [turn]
  split
  · exact .inl rfl
  · rename_i k a htask
    obtain ⟨before, after, hsplit, hset, -⟩ := split_of_getElem? htask
    split
    · exact .inl rfl
    · rename_i b deed later hturn
      exact .inr ⟨k, a, b, deed, later, before, after, hsplit, hturn, by rw [hset]⟩

/-- Nothing ends, or a reconcile in flight that is at its end or is cut short. -/
theorem finish_cases (i : Nat) (cut : Bool) (t : Team κ ε) :
    t.finish i cut = t ∨ ∃ k a outcome before after, t.tasks = before ++ (k, a) :: after ∧
      Ends a outcome ∧
      t.finish i cut = { course := t.course.finish k outcome, tasks := before ++ after } := by
  rw [finish]
  split
  · exact .inl rfl
  rename_i k a htask
  split
  · exact .inl rfl
  rename_i outcome houtcome
  obtain ⟨before, after, hsplit, -, herase⟩ := split_of_getElem? htask
  have hends : Ends a outcome := by
    unfold outcome? at houtcome
    split at houtcome <;> cases houtcome
    · exact .cut _
    · exact .result _
  exact .inr ⟨k, a, outcome, before, after, hsplit, hends, by rw [herase]⟩

/-- A step leaves the world alone, or a reconcile in flight takes a turn in it. -/
theorem Step.world_cases {t' : Team κ ε} {world' : ω} (h : Step job host t world t' world') :
    world' = world ∨ ∃ k a b deed inTime, (k, a) ∈ t.tasks ∧
      a.turn? host t.course.now inTime world = some (b, deed, world') := by
  cases h with
  | enqueue | signal | act | begin | finish => exact .inl rfl
  | turn i inTime =>
    rcases t.turn_cases host i inTime world with
      hsame | ⟨k, a, b, deed, later, before, after, htasks, hturn, hnext⟩
    · exact .inl (congrArg Prod.snd hsame)
    · rw [hnext]
      exact .inr ⟨k, a, b, deed, inTime, by simp [htasks], hturn⟩

/-- Enqueued keys do not change the reconciles in flight. -/
theorem tasks_enqueueAll (t : Team κ ε) (keys : List κ) : (t.enqueueAll keys).tasks = t.tasks := by
  induction keys generalizing t with
  | nil => rfl
  | cons k rest ih => exact ih (t.enqueue k)

/-! ### Who is in flight -/

/-- The reconciles that have begun, and those that were started and have not begun yet, are the ones
that the controller knows to be in flight. -/
structure Manned (policy : QueuePolicy ε) (t : Team κ ε) : Prop where
  /-- The controller came to its state in its course. -/
  reachable : Course.Reachable policy t.course
  /-- The reconciles that have begun or will are those in flight, by their keys. -/
  keys : (t.tasks.map (·.1) ++ t.course.fresh.map (·.key)).Perm
    (t.course.controller.running.map (·.key))

namespace Manned

variable {policy : QueuePolicy ε}

/-- A new team has nothing to do, so it is manned. -/
theorem initial (now : Instant) : Manned policy { course := { now } : Team κ ε } :=
  ⟨.start now, .refl _⟩

/-- No key has two reconciles, be they in flight or waiting to begin. -/
theorem nodup (h : t.Manned policy) : (t.tasks.map (·.1) ++ t.course.fresh.map (·.key)).Nodup :=
  h.keys.nodup_iff.mpr (List.nodup_append.mp h.reachable.history.orderly.nodup).1

/-- Without a reconcile in flight there is none that has begun or will begin. -/
theorem eq_nil (h : t.Manned policy) (hrunning : t.course.controller.running = []) :
    t.tasks = [] ∧ t.course.fresh = [] := by
  have hkeys := h.keys
  rw [hrunning, List.map_nil, List.perm_nil, List.append_eq_nil_iff] at hkeys
  exact ⟨List.map_eq_nil_iff.mp hkeys.1, List.map_eq_nil_iff.mp hkeys.2⟩

/-- Once the controller is over nothing is in flight. -/
theorem tasks_of_isOver (h : t.Manned policy) (hover : t.course.controller.isOver = true) :
    t.tasks = [] :=
  (h.eq_nil (h.reachable.history.orderly.silent hover)).1

/-- The key of a reconcile that has begun is among those in flight. -/
theorem running_of_task (h : t.Manned policy) {k : κ} {a : Activity Unit (Except ε Action)}
    (htask : (k, a) ∈ t.tasks) : k ∈ t.course.controller.running.map (·.key) :=
  h.keys.mem_iff.mp (List.mem_append_left _ (List.mem_map_of_mem (f := (·.1)) htask))

/-- The key of a reconcile that was started is among those in flight. -/
theorem running_of_fresh (h : t.Manned policy) {run : Run κ} (hrun : run ∈ t.course.fresh) :
    run.key ∈ t.course.controller.running.map (·.key) :=
  h.keys.mem_iff.mp (List.mem_append_right _ (List.mem_map_of_mem (f := (·.key)) hrun))

/-- The key of a reconcile in flight is active. -/
theorem active_of_running (h : t.Manned policy) {k : κ}
    (hk : k ∈ t.course.controller.running.map (·.key)) :
    t.course.controller.book.active.contains k = true := by
  obtain ⟨run, hrun, rfl⟩ := List.mem_map.mp hk
  exact h.reachable.history.orderly.active_of_running hrun

/-- A key that is enqueued is not yet in flight. -/
theorem enqueue (h : t.Manned policy) (k : κ) : (t.enqueue k).Manned policy :=
  ⟨h.reachable.next (.enqueue _ k), h.keys⟩

/-- Neither are several keys that are enqueued a reason to start one twice. -/
theorem enqueueAll (h : t.Manned policy) (keys : List κ) : (t.enqueueAll keys).Manned policy := by
  induction keys generalizing t with
  | nil => exact h
  | cons k rest ih => exact ih (h.enqueue k)

/-- What is in flight at the shutdown stays in flight. -/
theorem signal (h : t.Manned policy) : t.signal.Manned policy :=
  ⟨h.reachable.next (.signal _), h.keys⟩

/-- Time that goes by changes no one in flight. -/
theorem wait (h : t.Manned policy) {later : Instant} (hlater : t.course.now ≤ later) :
    (t.wait later).Manned policy :=
  ⟨h.reachable.next (.wait _ hlater), h.keys⟩

/-- The controller starts reconciles, which have not begun then, or gives all of them up. -/
theorem act (h : t.Manned policy) : (t.act policy).Manned policy := by
  refine ⟨h.reachable.next (.act _), ?_⟩
  have hacts := t.course.acts policy
  rw [Team.act]
  generalize t.course.act policy = course at hacts
  cases hacts with
  | idle =>
    simp only
    split
    · rename_i hcollapsed
      rw [← h.tasks_of_isOver (by simp [Controller.isOver, hcollapsed])]
      exact h.keys
    · exact h.keys
  | collapse hstage hrunning hbook =>
    simp only [hstage, hrunning, if_true]
    exact .refl _
  | @leave d hstage hrunning hbook =>
    have hgoes : d.stage ≠ .collapsed := by
      rcases hstage with ⟨hstage, -⟩ | hstage <;> simp [hstage]
    simp only [if_neg hgoes, hrunning]
    exact h.keys
  | serve hbefore hstage hrunning hevents =>
    simp only [hstage, hrunning, List.map_append]
    rw [if_neg (by decide), ← List.append_assoc]
    exact h.keys.append_right _

/-- A reconcile that begins was started before, and is in flight as it was. -/
theorem begin {job : Job κ ε} (h : t.Manned policy) (i : Nat) :
    (t.begin job i).Manned policy := by
  rcases t.begin_cases job i with hsame | ⟨run, before, after, hfresh, hbegin⟩
  · rw [hsame]
    exact h
  · rw [hbegin]
    refine ⟨h.reachable.next (.begin _ hfresh), ?_⟩
    have hkeys := h.keys
    rw [hfresh] at hkeys
    refine List.Perm.trans ?_ hkeys
    simp only [List.map_append, List.map_cons, List.map_nil, List.append_assoc,
      List.singleton_append]
    exact List.perm_middle.symm.append_left _

/-- A turn changes what is left of a reconcile, but not whose it is. -/
theorem turn (h : t.Manned policy) (host : Host Unit ω) (i : Nat) (inTime : Bool) (world : ω) :
    (t.turn host i inTime world).1.Manned policy := by
  rcases t.turn_cases host i inTime world with
    hsame | ⟨k, a, b, deed, later, before, after, htasks, -, hturn⟩
  · rw [hsame]
    exact h
  · rw [hturn]
    refine ⟨h.reachable, ?_⟩
    have hkeys := h.keys
    rw [htasks] at hkeys
    simpa using hkeys

/-- A reconcile in flight may end, and then it is in flight no longer. -/
theorem remove (h : t.Manned policy) {k : κ} {a : Activity Unit (Except ε Action)}
    {before after : List (κ × Activity Unit (Except ε Action))}
    (htasks : t.tasks = before ++ (k, a) :: after) (outcome : Outcome ε) :
    Manned policy { course := t.course.finish k outcome, tasks := before ++ after } := by
  have hkeys := h.keys
  have hnodup := h.nodup
  rw [htasks] at hkeys hnodup
  simp only [List.map_append, List.map_cons, List.append_assoc, List.cons_append] at hkeys hnodup
  have hk : k ∈ t.course.controller.running.map (·.key) :=
    hkeys.mem_iff.mp (List.mem_append_right _ List.mem_cons_self)
  obtain ⟨run, hrun, rfl⟩ := List.mem_map.mp hk
  have hbegun : run ∉ t.course.fresh := by
    intro hfresh
    obtain ⟨-, htail, -⟩ := List.nodup_append.mp hnodup
    exact (List.nodup_cons.mp htail).1 (List.mem_append_right _ (List.mem_map_of_mem hfresh))
  refine ⟨h.reachable.next (.finish _ outcome hrun hbegun), ?_⟩
  obtain ⟨other, first, last, hother, hsplit, hrest, -⟩ :=
    Controller.endRun_spec t.course.now outcome hrun
  rw [hsplit, List.map_append, List.map_cons, hother] at hkeys
  simp only [Course.finish, hrest, List.map_append, List.append_assoc]
  exact (List.perm_middle.symm.trans (hkeys.trans List.perm_middle)).cons_inv

/-- The other reconciles stay in flight when one of them ends. -/
theorem running_remove (h : t.Manned policy) {k : κ} {a : Activity Unit (Except ε Action)}
    {before after : List (κ × Activity Unit (Except ε Action))}
    (htasks : t.tasks = before ++ (k, a) :: after) (outcome : Outcome ε) (j : κ) :
    j ∈ (t.course.finish k outcome).controller.running.map (·.key) ↔
      j ≠ k ∧ j ∈ t.course.controller.running.map (·.key) := by
  have hnodup := h.nodup
  have hkeys := h.keys
  rw [htasks, List.map_append, List.map_cons, List.append_assoc, List.cons_append] at hnodup hkeys
  obtain ⟨hk, -⟩ := List.nodup_cons.mp (List.perm_middle.nodup_iff.mp hnodup)
  have hrest := (h.remove htasks outcome).keys
  rw [List.map_append, List.append_assoc] at hrest
  rw [← hrest.mem_iff, ← hkeys.mem_iff, List.perm_middle.mem_iff, List.mem_cons]
  constructor
  · intro hj
    exact ⟨fun hjk => hk (hjk ▸ hj), .inr hj⟩
  · rintro ⟨hne, rfl | hj⟩
    · exact absurd rfl hne
    · exact hj

/-- A reconcile that ends is in flight no longer, and the others are. -/
theorem finish (h : t.Manned policy) (i : Nat) (cut : Bool) : (t.finish i cut).Manned policy := by
  rcases t.finish_cases i cut with hsame | ⟨k, a, outcome, before, after, htasks, -, hfinish⟩
  · rw [hsame]
    exact h
  · rw [hfinish]
    exact h.remove htasks outcome

end Manned

/-- Every step keeps a team manned, one case for each kind of step. -/
theorem Step.manned {t' : Team κ ε} {world' : ω} (h : Step job host t world t' world')
    (hmanned : t.Manned job.policy) : t'.Manned job.policy := by
  cases h with
  | enqueue k => exact hmanned.enqueue k
  | signal => exact hmanned.signal
  | act => exact hmanned.act
  | begin i => exact hmanned.begin i
  | turn i inTime => exact hmanned.turn host i inTime world
  | finish i cut => exact hmanned.finish i cut

/-! ### What all reconciles have in common -/

/-- Every reconcile has a property, which may depend on its key. -/
def Each (P : κ → Activity Unit (Except ε Action) → Prop) (t : Team κ ε) : Prop :=
  ∀ k a, (k, a) ∈ t.tasks → P k a

variable {P Q : κ → Activity Unit (Except ε Action) → Prop}

/-- A property that follows from one that all reconciles have is one that all have. -/
theorem Each.imp (h : t.Each P) (himp : ∀ k a, P k a → Q k a) : t.Each Q :=
  fun k a htask => himp k a (h k a htask)

/-- Enqueued keys do not change the reconciles in flight. -/
theorem Each.enqueueAll (h : t.Each P) (keys : List κ) : (t.enqueueAll keys).Each P := by
  rw [Each, tasks_enqueueAll]
  exact h

/-- What reconciles have in common they keep in every step, if they have it from the start and keep
it in their turns. -/
theorem Step.each {t' : Team κ ε} {world' : ω} (h : Step job host t world t' world')
    (heach : t.Each P) (hbegin : ∀ k deadline, P k (job.reconcile k deadline))
    (hold : ∀ k a, P k a → Q k a)
    (hturn : ∀ k a b deed inTime, P k a →
      a.turn? host t.course.now inTime world = some (b, deed, world') → Q k b) :
    t'.Each Q := by
  cases h with
  | enqueue | signal => exact heach.imp hold
  | act =>
    intro k a htask
    rw [Team.act] at htask
    simp only at htask
    split at htask
    · cases htask
    · exact hold k a (heach k a htask)
  | begin i =>
    rcases t.begin_cases job i with hsame | ⟨run, before, after, -, hbegun⟩
    · rw [hsame]
      exact heach.imp hold
    · rw [hbegun]
      intro k a htask
      rcases List.mem_append.mp htask with hthere | hnew
      · exact hold k a (heach k a hthere)
      · cases List.mem_singleton.mp hnew
        exact hold _ _ (hbegin _ _)
  | turn i inTime =>
    rcases t.turn_cases host i inTime world with
      hsame | ⟨k, a, b, deed, later, before, after, htasks, hturned, hnext⟩
    · rw [hsame]
      exact heach.imp hold
    · rw [hnext] at hturn ⊢
      have hthere : ∀ j c, (j, c) ∈ before ++ after → P j c := by
        intro j c hmem
        refine heach j c ?_
        rw [htasks]
        exact (List.sublist_cons_self _ _).append_left _ |>.subset hmem
      have hself : P k a := heach k a (by simp [htasks])
      intro j c htask
      rcases List.mem_append.mp htask with hbefore | hrest
      · exact hold j c (hthere j c (List.mem_append_left _ hbefore))
      rcases List.mem_cons.mp hrest with hnew | hafter
      · cases hnew
        exact hturn k a b deed inTime hself hturned
      · exact hold j c (hthere j c (List.mem_append_right _ hafter))
  | finish i cut =>
    rcases t.finish_cases i cut with hsame | ⟨k, a, outcome, before, after, htasks, -, hfinish⟩
    · rw [hsame]
      exact heach.imp hold
    · rw [hfinish]
      intro j c htask
      refine hold j c (heach j c ?_)
      rw [htasks]
      exact ((List.sublist_cons_self _ _).append_left _).subset htask

end Team

end WorkspaceAccess
