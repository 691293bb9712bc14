import WorkspaceAccess.Proofs.Queue.Retry

/-!
# Controllers Are Shut Down Gracefully

Once a controller is told to shut down it starts nothing and takes nothing up any more, whatever
waits, lies in its inbox or is to be retried: the shutdown comes before everything else that lies
before it. What is in flight by then goes on to its end, and the controller stops when the last of
it is over. `Drains` says what has become of a course since the controller was told.

A reconcile is in flight from its start, so that one which was started and has not begun by then
begins and ends like the others. One that has ended and was not taken up by then is not in flight
any more; its end is never taken up, no retry follows from it, and its key stays active for ever.

`Drains` is a relation between two courses, the one at the signal and a later one, so that it can
say what stays: the bookkeeping, the alarms and the count of retries are the same. It is transitive,
and the run lemma is the step lemma repeated.

## Main results

* `step?_of_signalled`: all that a controller does that was told to shut down is to leave its stage.
* `Step.drains`: what one step leaves of such a course, one case for each kind of step.
* `Leads.drains`: the same for whatever comes later, by induction on the steps.
* `Controller.settle_of_idle`, `Controller.settle_of_busy`: such a controller stops at once when
  nothing is in flight, and otherwise waits for what is.
* `shutdown_is_graceful`: both together, for every reachable course, every signal and all that comes
  later.
* `drained_is_graceful`: a shutdown while a key is active and dirty and another one waits.
-/

namespace WorkspaceAccess

variable {κ ε : Type} [KeyOrder κ] {policy : QueuePolicy ε}

/-! ### The next thing that a controller does -/

namespace Controller

variable {c d : Controller κ ε} {now : Instant} {runs : List (Run κ)}

/-- All that a controller does that was told to shut down is to leave its stage. -/
theorem step?_of_signalled (hsignal : c.signalled = true)
    (h : c.step? policy now = some (d, runs)) :
    runs = [] ∧ (d = { c with stage := .draining } ∨ d = { c with stage := .stopped }) := by
  rw [step?] at h
  split at h
  · rw [if_pos hsignal] at h
    cases h
    exact ⟨rfl, .inl rfl⟩
  · split at h
    · cases h
      exact ⟨rfl, .inr rfl⟩
    · cases h
  · rw [if_pos hsignal] at h
    cases h
    exact ⟨rfl, .inr rfl⟩
  · cases h

/-- It stops at once when nothing is in flight. -/
theorem settle_of_idle (hsignal : c.signalled = true) (hrunning : c.running = []) :
    c.settle policy now = ({ c with stage := .stopped }, []) := by
  have hstop : ∀ b : Controller κ ε, b.signalled = true → b.running = [] →
      b.stage ≠ .serving → b.settle policy now = ({ b with stage := .stopped }, []) := by
    intro b hsignal hrunning hstage
    cases hb : b.stage with
    | serving => exact absurd hb hstage
    | draining =>
      have hstep : b.step? policy now = some ({ b with stage := .stopped }, []) := by
        simp [step?, hb, hrunning]
      rw [settle_of_some hstep, settle_of_none rfl]
      rfl
    | collapsed =>
      have hstep : b.step? policy now = some ({ b with stage := .stopped }, []) := by
        simp [step?, hb, hsignal]
      rw [settle_of_some hstep, settle_of_none rfl]
      rfl
    | stopped =>
      have hstep : b.step? policy now = none := by simp [step?, hb]
      rw [settle_of_none hstep, ← hb]
  by_cases hserving : c.stage = .serving
  · have hstep : c.step? policy now = some ({ c with stage := .draining }, []) := by
      simp [step?, hserving, hsignal]
    rw [settle_of_some hstep,
      hstop { c with stage := .draining } hsignal hrunning Stage.noConfusion]
    rfl
  · exact hstop c hsignal hrunning hserving

/-- Otherwise it waits for what is in flight, and does nothing else. -/
theorem settle_of_busy {workers : Nat} (h : c.Orderly workers) (hsignal : c.signalled = true)
    (hrunning : c.running ≠ []) : c.settle policy now = ({ c with stage := .draining }, []) := by
  have hwait : ∀ b : Controller κ ε, b.running ≠ [] → b.stage = .draining →
      b.settle policy now = (b, []) := by
    intro b hrunning hb
    have hstep : b.step? policy now = none := by simp [step?, hb, hrunning]
    exact settle_of_none hstep
  have hgoes : c.isOver = false := Bool.eq_false_iff.mpr (mt h.silent hrunning)
  cases hstage : c.stage with
  | serving =>
    have hstep : c.step? policy now = some ({ c with stage := .draining }, []) := by
      simp [step?, hstage, hsignal]
    rw [settle_of_some hstep, hwait { c with stage := .draining } hrunning rfl]
    rfl
  | draining => rw [hwait c hrunning hstage, ← hstage]
  | collapsed | stopped => simp [isOver, hstage] at hgoes

end Controller

/-! ### What comes after the signal -/

namespace Course

variable {s t u : Course κ ε}

/-- What has become of a course since its controller was told to shut down: of what lay before the
controller everything still lies there, and of what was in flight some has ended. -/
structure Drains (s t : Course κ ε) : Prop where
  /-- The shutdown is not taken back. -/
  signalled : t.controller.signalled = true
  /-- The keys that waited wait, those that were dirty are dirty, and no retry is recorded or
  used up. -/
  book : t.controller.book = s.controller.book
  /-- No alarm is set, and none has rung. -/
  alarms : t.controller.alarms = s.controller.alarms
  /-- No key was scheduled for later. -/
  requeues : t.controller.metrics.requeues = s.controller.metrics.requeues
  /-- Only reconciles that were started before have yet to begin. -/
  fresh : t.fresh.Sublist s.fresh
  /-- Since then keys were enqueued and reconciles ended, but none was started and nothing was
  taken up; and each of the reconciles in flight has ended just once, or is still in flight. -/
  events : ∃ later, t.log = later ++ s.log ∧
    (∀ e ∈ later, e.2.isEnqueued = true ∨ e.2.isEnded = true) ∧
    (QueueLog.keysOf QueueEvent.isEnded later ++ t.controller.running.map (·.key)).Perm
      (s.controller.running.map (·.key))

namespace Drains

/-- At the signal nothing has been lost yet, so that there is something to start from. -/
theorem refl (hsignal : s.controller.signalled = true) : s.Drains s :=
  ⟨hsignal, rfl, rfl, rfl, .refl _, [], rfl, nofun, .refl _⟩

/-- Nothing but the stage has changed, so draining goes on as before. -/
theorem of_same (hsignal : t.controller.signalled = true)
    (hbook : t.controller.book = s.controller.book)
    (halarms : t.controller.alarms = s.controller.alarms)
    (hrequeues : t.controller.metrics.requeues = s.controller.metrics.requeues)
    (hrunning : t.controller.running = s.controller.running)
    (hfresh : t.fresh.Sublist s.fresh) (hlog : t.log = s.log) : s.Drains t :=
  ⟨hsignal, hbook, halarms, hrequeues, hfresh, [], hlog, nofun, by rw [hrunning]; exact .refl _⟩

/-- What is lost in two stretches of time is lost in both together: the ends of the second come
after those of the first. -/
theorem trans (h : s.Drains t) (h' : t.Drains u) : s.Drains u := by
  obtain ⟨first, hfirst, hkinds, hperm⟩ := h.events
  obtain ⟨second, hsecond, hkinds', hperm'⟩ := h'.events
  refine ⟨h'.signalled, h'.book.trans h.book, h'.alarms.trans h.alarms,
    h'.requeues.trans h.requeues, h'.fresh.trans h.fresh, second ++ first, ?_, ?_, ?_⟩
  · rw [hsecond, hfirst, List.append_assoc]
  · intro e he
    exact (List.mem_append.mp he).elim (hkinds' e) (hkinds e)
  · rw [QueueLog.keysOf, List.filter_append, List.map_append]
    -- What ended first is put behind what ended later, with what is still in flight between them.
    have hswap := (List.perm_append_comm_assoc (QueueLog.keysOf QueueEvent.isEnded second)
      (QueueLog.keysOf QueueEvent.isEnded first) (u.controller.running.map (·.key)))
    rw [List.append_assoc]
    exact hswap.trans ((hperm'.append_left _).trans hperm)

end Drains

/-- Whatever happens next, a course whose controller was told to shut down drains. -/
theorem Step.drains (hsignal : s.controller.signalled = true) (h : Step policy s t) :
    s.Drains t := by
  cases h with
  | enqueue k =>
    exact ⟨hsignal, rfl, rfl, rfl, .refl _, [(k, .enqueued)], rfl, by simp [QueueEvent.isEnqueued],
      .refl _⟩
  | begin hrun =>
    refine .of_same hsignal rfl rfl rfl rfl ?_ rfl
    rw [hrun]
    exact (List.sublist_cons_self _ _).append_left _
  | @finish run outcome hrun _ =>
    obtain ⟨other, before, after, hkey, hsplit, hrunning, -⟩ :=
      Controller.endRun_spec s.now outcome hrun
    obtain ⟨-, hsignalled, halarms, hrequeues⟩ :=
      s.controller.endRun_frame s.now run.key outcome
    refine ⟨hsignalled.trans hsignal, Controller.book_endRun _ _ _ _, halarms, hrequeues, .refl _,
      [(run.key, .ended outcome)], rfl, by simp [QueueEvent.isEnded], ?_⟩
    show ([run.key] ++ (s.controller.endRun s.now run.key outcome).running.map (·.key)).Perm _
    rw [hrunning, hsplit, ← hkey]
    simpa using List.perm_middle.symm
  | signal => exact .of_same rfl rfl rfl rfl rfl (.refl _) rfl
  | wait _ => exact .of_same hsignal rfl rfl rfl rfl (.refl _) rfl
  | act =>
    rw [Course.act]
    split
    · exact .refl hsignal
    · rename_i d runs hstep
      obtain ⟨rfl, hd⟩ := Controller.step?_of_signalled hsignal hstep
      have hdoings : s.controller.doings policy s.now [] = [] := by
        simp [Controller.doings, hsignal]
      simp only [hdoings, List.append_nil]
      rcases hd with rfl | rfl <;>
        exact .of_same hsignal rfl rfl rfl rfl (.refl _) rfl

/-- Whatever comes later, a course whose controller was told to shut down drains. -/
theorem Leads.drains (hsignal : s.controller.signalled = true) (h : Leads policy s t) :
    s.Drains t := by
  induction h with
  | refl => exact .refl hsignal
  | tail _ hstep ih => exact ih.trans (hstep.drains ih.signalled)

/-- How a shutdown goes on from the signal to a later time. -/
structure ShutsDown (policy : QueuePolicy ε) (s t : Course κ ε) : Prop extends s.Drains t where
  /-- No two of the reconciles in flight at the signal are of one key. -/
  nodup : (s.controller.running.map (·.key)).Nodup
  /-- A controller that has stopped has nothing in flight. -/
  stopped : t.controller.stage = .stopped → t.controller.running = []
  /-- As soon as nothing is in flight the controller stops, and not before. -/
  stops : (t.controller.settle policy t.now).1.stage = .stopped ↔ t.controller.running = []
  /-- Nothing is started by then. -/
  starts : (t.controller.settle policy t.now).2 = []

/-- A shutdown is graceful. Whatever lies before the controller when it is signalled, no reconcile
is started after that and no end that is observed leads to a retry or to a further reconcile; each
reconcile in flight goes on to its end; and the controller stops just when the last one is over, or
at once when there is none. -/
theorem shutdown_is_graceful (h : Reachable policy s)
    (hsignal : s.controller.signalled = true) (hlater : Leads policy s t) :
    s.ShutsDown policy t := by
  have hdrains := hlater.drains hsignal
  have horderly := (h.leads hlater).history.orderly
  have hflight := h.history.orderly.nodup
  rw [Controller.inFlightKeys] at hflight
  have hsettle : (t.controller.running = [] ∧
      t.controller.settle policy t.now = ({ t.controller with stage := .stopped }, [])) ∨
      (t.controller.running ≠ [] ∧
        t.controller.settle policy t.now = ({ t.controller with stage := .draining }, [])) := by
    by_cases hrunning : t.controller.running = []
    · exact .inl ⟨hrunning, Controller.settle_of_idle hdrains.signalled hrunning⟩
    · exact .inr ⟨hrunning, Controller.settle_of_busy horderly hdrains.signalled hrunning⟩
  refine ⟨hdrains, (List.nodup_append.mp hflight).1, fun hstage => ?_, ?_, ?_⟩
  · exact horderly.silent (by simp [Controller.isOver, hstage])
  · rcases hsettle with ⟨hrunning, hsettle⟩ | ⟨hrunning, hsettle⟩ <;> simp [hsettle, hrunning]
  · rcases hsettle with ⟨-, hsettle⟩ | ⟨-, hsettle⟩ <;> rw [hsettle]

/-- The controller is told to shut down while a key is active and dirty and another one waits. -/
def interrupted : Course String Unit := { busy with controller := busy.controller.signal }

/-- By then the reconcile of the key has failed, and time has gone by. -/
def drained : Course String Unit :=
  let begun := { interrupted.act .oneWorker with
    controller := (interrupted.act .oneWorker).controller.beginRun, fresh := [] }
  ({ begun with now := 7 }.finish "a" (.failure ())).act .oneWorker

/-- The reconcile of the key begins, time goes by and it fails, all after the signal. -/
theorem leads_drained : Leads .oneWorker interrupted drained := by
  have hact : Leads .oneWorker interrupted (interrupted.act .oneWorker) :=
    .single (.act interrupted)
  have hfresh : (interrupted.act .oneWorker).fresh = [] ++ firstRun :: [] := by decide
  have hbegun := hact.tail (.begin _ hfresh)
  have hlater := hbegun.tail (.wait _ (Nat.zero_le 7))
  have hrunning : firstRun ∈ (interrupted.act .oneWorker).controller.beginRun.running := by decide
  have hended := hlater.tail (.finish _ (.failure ()) hrunning List.not_mem_nil)
  exact hended.tail (.act _)

/-- The reconcile in flight has ended, the controller has stopped, and the keys still wait. -/
theorem drained_is_graceful :
    interrupted.controller.signalled = true ∧ interrupted.ShutsDown .oneWorker drained ∧
      drained.controller.stage = .stopped ∧ drained.controller.running = [] ∧
      drained.controller.book.ready = ["b"] ∧ drained.controller.ended = [("a", .failure ())] := by
  have hshut := shutdown_is_graceful (reachable_busy.next (.signal busy)) rfl leads_drained
  exact ⟨rfl, hshut, by decide, hshut.stopped (by decide), by decide, by decide⟩

end Course

end WorkspaceAccess
