import Mathlib.Algebra.GroupWithZero.Nat
import WorkspaceAccess.Proofs.Reconcile.Story

/-!
# Activities That Leave the World as It Is

An activity inspects a world when the world answers all its calls without being changed. Which calls
it makes, what it ends with and how long it takes depend on nothing else then, and with a limit it
either ends like that or not at all.

Reconciles begin with reads, under one limit together. What one wants to say of them is what they
find and whether they are in time, and not how a limit is handed from one call to the next. An
inspection has a list of calls and a result, and the time that it takes is the sum of their delays;
with a limit it fits or it does not. Two inspections in a row are one, so that this is proved for
reads of any length from the single call.

To fit is not quite to be over by the limit. A call that takes no time is answered even when the
limit has passed, and so an inspection whose calls all take no time always fits. Where it is begun
by the limit there is no difference.

## Main results

* `fits_iff`, `fits_add_iff`: when something fits, and when two things in a row do.
* `Inspects.bind`: two inspections in a row are one.
* `Inspects.run_within`: with a limit, an activity that inspects a world comes to its result when
  that fits, and otherwise to none; the world is as it was.
* `Inspects.story_within`: with a limit, it does nothing but make these calls and give them up.
* `run_of_within`: a run that comes to a result in spite of a limit is the run without it.
-/

namespace WorkspaceAccess

variable {σ ω α β : Type}

/-- Something that takes so long fits before a limit: it takes no time at all, or it is over at the
limit. -/
def Fits (time now limit : Nat) : Prop := time = 0 ∨ now + time ≤ limit

instance (time now limit : Nat) : Decidable (Fits time now limit) :=
  inferInstanceAs (Decidable (_ ∨ _))

/-- What is begun by the limit fits when it is over at the limit. -/
theorem fits_iff {time now limit : Nat} (h : now ≤ limit) :
    Fits time now limit ↔ now + time ≤ limit := by
  rw [Fits]
  omega

/-- What takes two times in a row fits when the first one does and then the second one. -/
theorem fits_add_iff {first second now limit : Nat} :
    Fits (first + second) now limit ↔ Fits first now limit ∧ Fits second (now + first) limit := by
  rw [Fits, Fits, Fits]
  omega

/-- A call is in time just when its delay fits. -/
theorem Host.inTime_iff {host : Host σ ω} {world : ω} {call : Call σ} {now limit : Instant} :
    host.inTime world call now limit = true ↔ Fits (host.delay world call) now limit := by
  rw [inTime, Bool.or_eq_true, beq_iff_eq, decide_eq_true_eq]
  exact Iff.rfl

/-- How long calls take one after the other, in a world that they do not change. -/
def Host.timeOf (host : Host σ ω) (world : ω) (calls : List (Call σ)) : Nat :=
  (calls.map (host.delay world)).sum

/-- The call that was answered or given up by a deed, if it is one about a call. -/
def Deed.call? : Deed σ → Option (Call σ)
  | .answered call _ | .gaveUp call => some call
  | .looked | .reported _ => none

namespace Activity

/-- An activity has this result after these calls, and they leave the world as it is. -/
inductive Inspects (host : Host σ ω) (world : ω) : Activity σ α → α → List (Call σ) → Prop
  /-- It is at its end, and makes no more calls. -/
  | done (result : α) : Inspects host world (.done result) result []
  /-- A call is answered and changes nothing, and so do those that follow. -/
  | await {call : Call σ} {next : call.Answer → Activity σ α} {answer : call.Answer} {result : α}
      {calls : List (Call σ)} (hanswer : ∀ clock, host.answer call clock world = (answer, world))
      (h : Inspects host world (next answer) result calls) :
      Inspects host world (.await call next) result (call :: calls)

namespace Inspects

variable {host : Host σ ω} {world : ω} {a : Activity σ α} {result : α} {calls : List (Call σ)}

/-- Two inspections in a row are one, whose calls are those of both. -/
theorem bind {f : α → Activity σ β} {outcome : β} {more : List (Call σ)}
    (h : a.Inspects host world result calls) (hnext : (f result).Inspects host world outcome more) :
    (a.bind f).Inspects host world outcome (calls ++ more) := by
  induction h with
  | done => exact hnext
  | await hanswer _ ih => exact .await hanswer (ih hnext)

/-- With a limit, an activity that inspects a world comes to its result when that fits, and
otherwise to none; the world is as it was. -/
theorem run_within (h : a.Inspects host world result calls) (limit now : Instant) :
    let time := host.timeOf world calls
    (Fits time now limit →
      (a.within limit).run host world now = ⟨some result, world, now + time⟩) ∧
    (¬Fits time now limit →
      ∃ later, (a.within limit).run host world now = ⟨none, world, later⟩) := by
  induction h generalizing now with
  | done result => exact ⟨fun _ => rfl, fun h => absurd (.inl rfl) h⟩
  | @await call next answer result calls hanswer _ ih =>
    intro time
    have htime : time = host.delay world call + host.timeOf world calls := rfl
    obtain ⟨hfits, hlate⟩ := ih (now + host.delay world call)
    rw [htime, fits_add_iff, within]
    cases hin : host.inTime world call now limit with
    | true =>
      rw [(awaitUntil_answered hin (hanswer _)).1]
      refine ⟨fun h => ?_, fun h => hlate fun hsecond => h ⟨Host.inTime_iff.mp hin, hsecond⟩⟩
      rw [hfits h.2, Nat.add_assoc]
    | false =>
      rw [(awaitUntil_late hin).1]
      refine ⟨fun h => ?_, fun _ => ⟨_, rfl⟩⟩
      rw [Host.inTime_iff.mpr h.1] at hin
      cases hin

/-- With a limit, it does nothing but make these calls, and it may give them up. -/
theorem story_within (h : a.Inspects host world result calls) (limit now : Instant) :
    ∀ e ∈ (a.within limit).story host world now, ∃ call ∈ calls, e.2.call? = some call := by
  induction h generalizing now with
  | done => exact fun _ he => absurd he List.not_mem_nil
  | @await call next answer _ calls hanswer _ ih =>
    rw [within]
    cases hin : host.inTime world call now limit with
    | true =>
      rw [(awaitUntil_answered hin (hanswer _)).2]
      refine List.forall_mem_cons.mpr ⟨⟨call, List.mem_cons_self, rfl⟩, fun e he => ?_⟩
      obtain ⟨made, hmade, heq⟩ := ih _ e he
      exact ⟨made, List.mem_cons_of_mem _ hmade, heq⟩
    | false =>
      rw [(awaitUntil_late hin).2]
      exact List.forall_mem_cons.mpr
        ⟨⟨call, List.mem_cons_self, rfl⟩, fun _ he => absurd he List.not_mem_nil⟩

end Inspects

/-- A run that comes to a result in spite of a limit is the run without it. -/
theorem run_of_within {host : Host σ ω} {a : Activity σ α} {limit now finish : Instant}
    {world later : ω} {result : α}
    (h : (a.within limit).run host world now = ⟨some result, later, finish⟩) :
    a.run host world now = ⟨result, later, finish⟩ ∧
      a.story host world now = (a.within limit).story host world now := by
  induction a generalizing world now with
  | done =>
    cases h
    exact ⟨rfl, rfl⟩
  | look _ ih =>
    obtain ⟨hrun, hstory⟩ := ih _ h
    exact ⟨hrun, congrArg (_ :: ·) hstory⟩
  | report _ _ ih =>
    obtain ⟨hrun, hstory⟩ := ih h
    exact ⟨hrun, congrArg (_ :: ·) hstory⟩
  | await call next ih =>
    rw [within] at h ⊢
    cases hin : host.inTime world call now limit with
    | true =>
      rw [(awaitUntil_inTime hin).1] at h
      rw [(awaitUntil_inTime hin).2]
      obtain ⟨hrun, hstory⟩ := ih _ h
      exact ⟨hrun, congrArg (_ :: ·) hstory⟩
    | false =>
      rw [(awaitUntil_late hin).1] at h
      cases h
  | awaitUntil inner call next late ih ihLate =>
    -- Where the given limit is the earlier one, being late for it leaves no result, and being in
    -- time for it is being in time for the other one.
    have hanswered (hin : host.inTime world call now inner = true)
        (h : (await call fun r => (next r).within limit).run host world now =
          ⟨some result, later, finish⟩) :
        (awaitUntil inner call next late).run host world now = ⟨result, later, finish⟩ ∧
          (awaitUntil inner call next late).story host world now =
            (await call fun r => (next r).within limit).story host world now := by
      rw [(awaitUntil_inTime hin).1, (awaitUntil_inTime hin).2]
      obtain ⟨hrun, hstory⟩ := ih _ h
      exact ⟨hrun, congrArg (_ :: ·) hstory⟩
    rw [within] at h ⊢
    by_cases hinner : inner ≤ limit
    · rw [if_pos hinner] at h ⊢
      cases hin : host.inTime world call now inner with
      | true =>
        rw [(awaitUntil_inTime hin).1] at h
        obtain ⟨hrun, hstory⟩ := hanswered hin h
        exact ⟨hrun, hstory.trans (awaitUntil_inTime hin).2.symm⟩
      | false =>
        rw [(awaitUntil_late hin).1] at h ⊢
        rw [(awaitUntil_late hin).2, (awaitUntil_late hin).2]
        obtain ⟨hrun, hstory⟩ := ihLate h
        exact ⟨hrun, congrArg (_ :: ·) hstory⟩
    · rw [if_neg hinner] at h ⊢
      cases hin : host.inTime world call now limit with
      | true =>
        have hlt := Nat.lt_of_not_le hinner
        have hearlier : host.inTime world call now inner = true := by
          rw [Host.inTime_iff, Fits] at hin ⊢
          omega
        rw [(awaitUntil_inTime hin).1] at h
        obtain ⟨hrun, hstory⟩ := hanswered hearlier h
        exact ⟨hrun, hstory.trans (awaitUntil_inTime hin).2.symm⟩
      | false =>
        rw [(awaitUntil_late hin).1] at h
        cases h

end Activity

end WorkspaceAccess
