import WorkspaceAccess.Proofs.Queue.Retry

/-!
# Alarms That Ring on Time

How long a controller takes is not for the controller to decide: whoever drives it may let time go
by while something lies before it. A course is *prompt* when no time goes by as long as there is
something to do, and none beyond the next stop of the alarms (`PromptStep`). Whatever else happens,
and however it interleaves, is as free as in any course.

In a prompt course the wheel of the alarms comes to every alarm in the very millisecond for which it
is set, and no alarm is overdue (`Alarms.OnTime`). Times are kept in nanoseconds, and alarms ring at
whole milliseconds: a retry comes at the first one that is not before the recorded time
(`Alarms.ringTime`), and so exactly at the recorded time if that is a whole one.

The wheel does not come to a stop for every alarm. It keeps one next stop, which is put earlier when
an alarm is asked for and computed anew when the wheel stops; that this stop is never behind an
alarm that is set is the part of `Alarms.OnTime` that carries the induction. The bookkeeping may
have recorded a later time than that of the alarm. Then the alarm rings too early and is set anew,
and since that happens before the recorded time nothing is lost.

## Main results

* `ringTime_of_whole`, `ringTime_mono`: an alarm for a whole millisecond rings at its time, and
  alarms ring in the order of their times.
* `OnTime.poll`, `OnTime.request`: alarms on time stay so when the wheel stops and when one is asked
  for whose time is not over.
* `Prompt.onTime_wait`: time does not go by beyond an alarm.
* `Prompt.onTime`: as long as the controller of a prompt course serves, its alarms are on time.
* `Prompt.now_of_due`: a retry is taken up in the very millisecond for which it is recorded.
* `Prompt.le_ringTime`, `Prompt.lt_ringTime`: no retry is overdue, and once nothing lies before the
  controller those of that time have been taken up.
-/

namespace WorkspaceAccess

/-! ### Whole milliseconds -/

namespace Alarms

/-- The first whole millisecond that is not before a time, which is when an alarm for that time
rings. -/
def ringTime (time : Instant) : Instant := tickFor time * tickLength

/-- A millisecond is not empty, which the division of times by it relies on. -/
theorem tickLength_pos : 0 < tickLength := Nat.succ_pos _

/-- A whole millisecond is not before a time just when that of the alarm is not after it. -/
theorem tickFor_le_iff {time : Instant} {tick : Nat} :
    tickFor time ≤ tick ↔ time ≤ tick * tickLength := by
  rw [tickFor, Nat.div_le_iff_le_mul_add_pred tickLength_pos, Nat.mul_comm]
  exact Nat.add_le_add_iff_right

/-- The millisecond of a time is before another one just when the time is. -/
theorem tickAt_lt_iff {now : Instant} {tick : Nat} : tickAt now < tick ↔ now < tick * tickLength :=
  Nat.div_lt_iff_lt_mul tickLength_pos

/-- An alarm does not ring before its time, since times are rounded up. -/
theorem le_ringTime (time : Instant) : time ≤ ringTime time := tickFor_le_iff.mp (Nat.le_refl _)

/-- A whole millisecond that is not before a time is not before the one in which its alarm rings. -/
theorem ringTime_le_of_le {time : Instant} {tick : Nat} (h : time ≤ tick * tickLength) :
    ringTime time ≤ tick * tickLength :=
  Nat.mul_le_mul_right _ (tickFor_le_iff.mpr h)

/-- Of two alarms the one for the later time does not ring before the other. -/
theorem ringTime_mono {time later : Instant} (h : time ≤ later) :
    ringTime time ≤ ringTime later :=
  ringTime_le_of_le (Nat.le_trans h (le_ringTime later))

/-- An alarm for a whole millisecond rings at its time. -/
theorem ringTime_of_whole {time : Instant} (h : tickLength ∣ time) : ringTime time = time := by
  obtain ⟨tick, rfl⟩ := h
  refine Nat.le_antisymm ?_ (le_ringTime _)
  rw [Nat.mul_comm]
  exact ringTime_le_of_le (Nat.le_refl _)

/-! ### Alarms on time -/

variable {κ : Type} [KeyOrder κ] {a b : Alarms κ} {now : Instant} {k : κ}

/-- The alarms are on time: each is set for the first millisecond that is not before its time, the
next stop of the wheel is not behind any of them, and none is overdue. -/
structure OnTime (a : Alarms κ) (now : Instant) : Prop where
  /-- The wheel has not come farther than the time. -/
  elapsed : a.elapsed ≤ tickAt now
  /-- Each alarm is set for the tick of its time. -/
  tick {k : κ} {e : Alarm} : a.pending.get? k = some e → e.tick = tickFor e.time
  /-- The wheel does not pass an alarm. -/
  wake {k : κ} {e : Alarm} : a.pending.get? k = some e → ∃ stop ≤ e.tick, a.wake = some stop
  /-- No alarm is overdue. -/
  ahead {k : κ} {e : Alarm} : a.pending.get? k = some e → now ≤ e.tick * tickLength

/-- The next stop is not behind any alarm that is set. -/
theorem nextStop?_le {e : Alarm} (h : a.pending.get? k = some e) :
    ∃ stop ≤ e.tick, a.nextStop? = some stop := by
  have hmem := SortedMap.mem_entries_iff.mpr h
  obtain ⟨first, hfirst⟩ :=
    Option.isSome_iff_exists.mp (Alarm.first?_isSome (List.ne_nil_of_mem hmem))
  refine ⟨Wheel.stop a.elapsed first.2.tick, ?_, ?_⟩
  · exact Nat.le_trans (Wheel.stop_le _ _) (Alarm.first?_tick_le hfirst _ hmem)
  · rw [nextStop?, hfirst]
    rfl

/-- A wheel that has come to a stop goes on to the next one. -/
theorem poll_spec {rings : Option κ} (h : a.poll now = (rings, b)) (hold : a.elapsed ≤ tickAt now) :
    b.elapsed ≤ tickAt now ∧ b.wake = b.nextStop? ∧
      ∀ k e, b.pending.get? k = some e → a.pending.get? k = some e := by
  rw [poll] at h
  split at h
  · cases h
    exact ⟨Nat.max_le.mpr ⟨hold, Nat.le_refl _⟩, rfl, fun _ _ hk => hk⟩
  · rename_i j first _
    split at h
    · rename_i hdue
      cases h
      refine ⟨Nat.max_le.mpr ⟨hold, ?_⟩, rfl, fun k e hk => ?_⟩
      · split
        · exact hdue
        · exact Nat.le_trans (Nat.sub_le _ _) hdue
      · rw [pending_ring, SortedMap.get?_erase] at hk
        split at hk
        · cases hk
        · exact hk
    · cases h
      exact ⟨Nat.max_le.mpr ⟨hold, Nat.le_refl _⟩, rfl, fun _ _ hk => hk⟩

namespace OnTime

/-- Alarms stay on time when the wheel has come to a stop. -/
theorem poll {rings : Option κ} (h : a.OnTime now) (hpoll : a.poll now = (rings, b)) :
    b.OnTime now := by
  obtain ⟨helapsed, hwake, hpending⟩ := poll_spec hpoll h.elapsed
  refine ⟨helapsed, fun hk => h.tick (hpending _ _ hk), fun hk => ?_,
    fun hk => h.ahead (hpending _ _ hk)⟩
  rw [hwake]
  exact nextStop?_le hk

/-- The alarm that is set for a time that is not over is on time. -/
theorem tick_alarm (h : a.OnTime now) {time : Instant} (htime : now ≤ time) :
    (a.alarm time).tick = tickFor time := by
  have hreached : tickAt now ≤ tickFor time := by
    refine Nat.le_of_mul_le_mul_right ?_ tickLength_pos
    exact Nat.le_trans (Nat.div_mul_le_self _ _) (Nat.le_trans htime (le_ringTime time))
  exact Nat.max_eq_left (Nat.le_trans h.elapsed hreached)

/-- Alarms stay on time when one is asked for whose time is not over. -/
theorem request (h : a.OnTime now) (k : κ) {time : Instant} (htime : now ≤ time) :
    (a.request k time).OnTime now := by
  have hset : ∀ {j e}, (a.set k time).pending.get? j = some e →
      e = a.alarm time ∨ j ≠ k ∧ a.pending.get? j = some e := by
    intro j e hj
    rw [Alarms.set, SortedMap.get?_insert] at hj
    split at hj
    · exact .inl (Option.some.inj hj).symm
    · rename_i hjk
      exact .inr ⟨fun hj => hjk (KeyOrder.compare_eq_iff.mpr hj), hj⟩
  have htick : ∀ {j e}, (a.set k time).pending.get? j = some e → e.tick = tickFor e.time := by
    intro j e hj
    rcases hset hj with rfl | ⟨-, hj⟩
    · exact h.tick_alarm htime
    · exact h.tick hj
  have hahead : ∀ {j e}, (a.set k time).pending.get? j = some e → now ≤ e.tick * tickLength := by
    intro j e hj
    rcases hset hj with rfl | ⟨-, hj⟩
    · rw [h.tick_alarm htime]
      exact Nat.le_trans htime (le_ringTime time)
    · exact h.ahead hj
  rw [Alarms.request]
  cases hold : a.pending.get? k with
  | none =>
    refine ⟨h.elapsed, htick, fun hj => ?_, hahead⟩
    refine ⟨_, ?_, rfl⟩
    rcases hset hj with rfl | ⟨-, hj⟩
    · exact Nat.min_le_right _ _
    · obtain ⟨stop, hstop, hwake⟩ := h.wake hj
      rw [hwake]
      exact Nat.le_trans (Nat.min_le_left _ _) hstop
  | some old =>
    by_cases hearlier : time ≤ old.time
    · simp only [if_pos hearlier]
      refine ⟨h.elapsed, htick, fun hj => ?_, hahead⟩
      obtain ⟨_, -, hwake⟩ := h.wake hold
      rw [hwake]
      exact nextStop?_le (a := a.set k time) hj
    · simp only [if_neg hearlier]
      exact h

/-- An alarm rings in the very millisecond for which it is set. -/
theorem now_of_rings (h : a.OnTime now) (hpoll : a.poll now = (some k, b)) :
    ∃ due, a.time? k = some due ∧ now = ringTime due := by
  obtain ⟨-, e, hdue⟩ := poll_eq_some hpoll
  rw [due, SortedMap.get?_filter, Option.filter_eq_some_iff] at hdue
  obtain ⟨hpending, hreached⟩ := hdue
  refine ⟨e.time, by rw [time?, hpending]; rfl, ?_⟩
  rw [ringTime, ← h.tick hpending]
  refine Nat.le_antisymm (h.ahead hpending) ?_
  exact Nat.le_trans (Nat.mul_le_mul_right _ (of_decide_eq_true hreached))
    (Nat.div_mul_le_self _ _)

/-- No alarm is overdue, as long as the time has not gone by beyond any of them. -/
theorem le_ringTime {due : Instant} (h : a.OnTime now) (hdue : a.time? k = some due) :
    now ≤ ringTime due := by
  obtain ⟨e, hpending, rfl⟩ := Option.map_eq_some_iff.mp hdue
  have hahead := h.ahead hpending
  rwa [h.tick hpending] at hahead

/-- A wheel that has not come to a stop is before all alarms. -/
theorem lt_ringTime {due : Instant} (h : a.OnTime now) (hasleep : a.isAwake now = false)
    (hdue : a.time? k = some due) : now < ringTime due := by
  obtain ⟨e, hpending, rfl⟩ := Option.map_eq_some_iff.mp hdue
  obtain ⟨stop, hstop, hwake⟩ := h.wake hpending
  rw [isAwake, hwake, Option.any_some, decide_eq_false_iff_not, Nat.not_le] at hasleep
  rw [ringTime, ← h.tick hpending, ← tickAt_lt_iff]
  exact Nat.lt_of_lt_of_le hasleep hstop

end OnTime

end Alarms

/-! ### What a controller does keeps its alarms on time -/

variable {κ ε : Type} [KeyOrder κ] {policy : QueuePolicy ε}

namespace Controller

variable {c d : Controller κ ε} {now : Instant} {k : κ}

/-- An outcome leads to an alarm for a later time at most. -/
theorem alarms_weigh (policy : QueuePolicy ε) (now : Instant) (c : Controller κ ε) (k : κ)
    (outcome : Outcome ε) :
    (c.weigh policy now k outcome).alarms = c.alarms ∨
      ∃ time ≥ now, (c.weigh policy now k outcome).alarms = c.alarms.request k time := by
  have hretry : ∀ (b : Bookkeeping κ) (delay : Span),
      (retryLater { c with book := b } now k delay).alarms = c.alarms ∨
        ∃ time ≥ now, (retryLater { c with book := b } now k delay).alarms =
          c.alarms.request k time := by
    intro b delay
    rcases retryLater_cases { c with book := b } now k delay with ⟨-, hsame⟩ | hanew
    · exact .inl (by rw [hsame])
    · exact .inr ⟨now + delay.toNanos, Nat.le_add_right _ _, by rw [hanew]⟩
  cases outcome with
  | success action =>
    cases action with
    | done => exact .inl rfl
    | requeue delay => exact hretry _ _
  | failure error => exact hretry _ _
  | panic => exact hretry _ _

/-- Alarms stay on time whatever a controller takes up. -/
theorem onTime_takeUp? (h : c.alarms.OnTime now) (hd : c.takeUp? policy now = some d) :
    d.alarms.OnTime now := by
  rw [takeUp?] at hd
  split at hd
  · rename_i j outcome rest _
    cases hd
    show (weigh policy now j { c with ended := rest } outcome).alarms.OnTime now
    rcases alarms_weigh policy now { c with ended := rest } j outcome with
      hsame | ⟨time, htime, hasked⟩
    · rw [hsame]
      exact h
    · rw [hasked]
      exact h.request j htime
  split at hd
  · cases hd
    obtain ⟨rings, alarms, hpoll⟩ : ∃ rings alarms, c.alarms.poll now = (rings, alarms) :=
      ⟨_, _, rfl⟩
    have hpolled := h.poll hpoll
    cases rings with
    | none =>
      rw [tick, hpoll]
      exact hpolled
    | some j =>
      cases hrecorded : c.book.retries.get? j with
      | none =>
        rw [tick_of_unrecorded hpoll hrecorded]
        exact hpolled
      | some time =>
        by_cases hdue : time ≤ now
        · rw [tick_of_due hpoll hrecorded hdue]
          exact hpolled
        · have hearly := Nat.lt_of_not_le hdue
          rw [tick_of_early hpoll hrecorded hearly]
          exact hpolled.request j (Nat.le_of_lt hearly)
  · split at hd
    · cases hd
    · cases hd
      exact h

end Controller

/-! ### Prompt courses -/

namespace Course

variable {s t : Course κ ε} {k : κ} {time : Instant}

/-- Something happens, and no time goes by as long as something lies before the controller, nor
beyond the next stop of its alarms. -/
structure PromptStep (policy : QueuePolicy ε) (s t : Course κ ε) : Prop where
  /-- It may happen next. -/
  step : Step policy s t
  /-- It is not late. -/
  prompt {next : Instant} : s.controller.nextTime? policy s.now = some next → t.now ≤ max s.now next

/-- A course comes promptly after another one, by steps of which none is late. -/
abbrev PromptlyLeads (policy : QueuePolicy ε) : Course κ ε → Course κ ε → Prop :=
  Relation.ReflTransGen (PromptStep policy)

/-- What comes about promptly comes about, so what holds of every course holds of prompt ones. -/
theorem PromptlyLeads.leads (h : PromptlyLeads policy s t) : Leads policy s t := by
  induction h with
  | refl => exact .refl
  | tail _ hstep ih => exact ih.tail hstep.step

/-- A course comes about promptly from a new controller. -/
def Prompt (policy : QueuePolicy ε) (s : Course κ ε) : Prop :=
  ∃ start, PromptlyLeads policy { now := start } s

/-- What takes no time is not late, whatever the step is. -/
theorem PromptStep.of_now_eq (h : Step policy s t) (hnow : t.now = s.now) : PromptStep policy s t :=
  ⟨h, fun _ => hnow ▸ Nat.le_max_left _ _⟩

/-- Whatever happens, a controller that does not serve any more never will. -/
theorem Step.serving (h : Step policy s t) (hserving : t.controller.stage = .serving) :
    s.controller.stage = .serving := by
  cases h with
  | enqueue | begin _ | signal | wait _ => exact hserving
  | @finish run outcome hrun hbegun =>
    obtain ⟨hstage, -⟩ := s.controller.endRun_frame s.now run.key outcome
    exact hstage.symm.trans hserving
  | act =>
    rcases act_cases policy s with hsame | hleft | ⟨d, hserves⟩
    · rwa [hsame] at hserving
    · exact absurd hserving hleft
    · exact hserves.stage

namespace Prompt

/-- What comes promptly after a prompt course is prompt. -/
theorem leads (h : Prompt policy s) (hlater : PromptlyLeads policy s t) : Prompt policy t := by
  obtain ⟨start, hstart⟩ := h
  exact ⟨start, hstart.trans hlater⟩

/-- A prompt course is reachable, so that all that holds for reachable courses holds for it. -/
theorem reachable (h : Prompt policy s) : Reachable policy s := by
  obtain ⟨start, hstart⟩ := h
  induction hstart with
  | refl => exact .start start
  | tail _ hstep ih => exact ih.next hstep.step

/-- Time does not go by beyond the alarms, if it never goes further than to the next thing to be
done. -/
theorem onTime_wait (h : s.controller.alarms.OnTime s.now)
    (hstage : s.controller.stage = .serving) {later : Instant} (hlater : s.now ≤ later)
    (hprompt : ∀ {next}, s.controller.nextTime? policy s.now = some next → later ≤ max s.now next) :
    s.controller.alarms.OnTime later := by
  refine ⟨?_, h.tick, h.wake, fun {k e} hk => ?_⟩
  · exact Nat.le_trans h.elapsed (Nat.div_le_div_right hlater)
  · have hahead := h.ahead hk
    obtain ⟨stop, hstop, hwake⟩ := h.wake hk
    by_cases hbusy : (s.controller.step? policy s.now).isSome = true
    · have hnow : later ≤ max s.now s.now := hprompt (if_pos hbusy)
      rw [Nat.max_self] at hnow
      exact Nat.le_trans hnow hahead
    · have hnext : s.controller.nextTime? policy s.now = some (stop * Alarms.tickLength) := by
        rw [Controller.nextTime?, if_neg hbusy, if_pos hstage, Alarms.nextTime?, hwake]
        rfl
      exact Nat.le_trans (hprompt hnext)
        (Nat.max_le.mpr ⟨hahead, Nat.mul_le_mul_right _ hstop⟩)

/-- As long as the controller of a prompt course serves, its alarms are on time. The induction is on
the steps; only the passing of time and what the controller takes up have anything to do with
alarms. -/
theorem onTime (h : Prompt policy s) (hstage : s.controller.stage = .serving) :
    s.controller.alarms.OnTime s.now := by
  obtain ⟨start, hstart⟩ := h
  induction hstart with
  | refl => exact ⟨Nat.zero_le _, nofun, nofun, nofun⟩
  | @tail s t _ hstep ih =>
    obtain ⟨hstep, hprompt⟩ := hstep
    have hbefore := hstep.serving hstage
    have ih := ih hbefore
    cases hstep with
    | enqueue | begin _ | signal => exact ih
    | @finish run outcome hrun hbegun =>
      obtain ⟨-, -, halarms, -⟩ := s.controller.endRun_frame s.now run.key outcome
      show Alarms.OnTime (s.controller.endRun s.now run.key outcome).alarms s.now
      rw [halarms]
      exact ih
    | wait hlater => exact onTime_wait ih hbefore hlater hprompt
    | act =>
      rw [now_act]
      rcases act_cases policy s with hsame | hleft | ⟨d, hserves⟩
      · rw [hsame]
        exact ih
      · exact absurd hstage hleft
      · obtain ⟨-, -, halarms, -⟩ := Controller.dispatch_frame policy s.now d
        rw [hserves.controller, halarms]
        exact Controller.onTime_takeUp? ih hserves.takeUp

/-- A retry is taken up in the very millisecond for which it is recorded. -/
theorem now_of_due {alarms : Alarms κ} (h : Prompt policy s)
    (hstage : s.controller.stage = .serving)
    (hpoll : s.controller.alarms.poll s.now = (some k, alarms))
    (hrecorded : s.controller.book.retries.get? k = some time) (hdue : time ≤ s.now) :
    s.now = Alarms.ringTime time := by
  obtain ⟨due, hrings, hnow⟩ := (h.onTime hstage).now_of_rings hpoll
  obtain ⟨due', hearly, hawaited⟩ := h.reachable.history.isAwaited k time hrecorded
  obtain rfl : due = due' := Option.some.inj (hrings.symm.trans hawaited)
  refine Nat.le_antisymm ?_ ?_
  · rw [hnow]
    exact Alarms.ringTime_mono hearly
  · rw [hnow] at hdue ⊢
    exact Alarms.ringTime_le_of_le hdue

/-- No retry is overdue in a course that is prompt, while the controller serves. -/
theorem le_ringTime (h : Prompt policy s) (hstage : s.controller.stage = .serving)
    (hrecorded : s.controller.book.retries.get? k = some time) : s.now ≤ Alarms.ringTime time := by
  obtain ⟨due, hearly, hawaited⟩ := h.reachable.history.isAwaited k time hrecorded
  exact Nat.le_trans ((h.onTime hstage).le_ringTime hawaited) (Alarms.ringTime_mono hearly)

/-- Once nothing lies before the controller all retries of that time have been taken up. -/
theorem lt_ringTime (h : Prompt policy s) (hstage : s.controller.stage = .serving)
    (hsettled : s.controller.step? policy s.now = none)
    (hrecorded : s.controller.book.retries.get? k = some time) : s.now < Alarms.ringTime time := by
  obtain ⟨-, -, hasleep⟩ := Controller.of_settled hstage hsettled
  obtain ⟨due, hearly, hawaited⟩ := h.reachable.history.isAwaited k time hrecorded
  exact Nat.lt_of_lt_of_le ((h.onTime hstage).lt_ringTime hasleep hawaited)
    (Alarms.ringTime_mono hearly)

end Prompt

end Course

end WorkspaceAccess
