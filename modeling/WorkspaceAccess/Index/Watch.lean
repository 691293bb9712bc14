import WorkspaceAccess.Object.Identity

/-!
# Watch Events

A watch delivers the changes of one kind of object in order. When it starts anew it delivers every
object that is there and then the ones that are gone; the handling of events makes no difference
between a change and such a repetition, and it is left to the indexes to notice that nothing has
changed.

`handleAll` handles a sequence of events and collects, in order, what each of them asks for. An
event about an object that cannot be identified ends the handling: what was asked for before it
stands, and nothing after it is looked at. An index is thereby a state machine over events, and the
laws in `WorkspaceAccess.Proofs.Index` speak about the runs of that machine.

A law says what an event asks for, given all events before it. An index does not keep these, only
what it needs to know of them; that it follows the law is a matter of one event at a time, and of
any number of events by the one induction that is made here.

## Main results

* `handleAll_by_law`: an index that handles each event by a law, and knows what it needs of it
  afterwards, handles any number of events by that law.
-/

namespace WorkspaceAccess

universe u v w

/-- A change of a watched object. An addition and a change look the same; a removal names the object
and does not show it. -/
inductive WatchEvent (α : Type u) where
  /-- An object was added or changed. -/
  | applied (object : α)
  /-- The object of this name was removed. -/
  | deleted (id : ResourceId)

namespace WatchEvent

/-- The events of a watch that starts anew: all objects as they are, then the ones that have
disappeared while nobody watched. -/
def restart {α : Type u} (objects : List α) (removed : List ResourceId) :
    List (WatchEvent α) :=
  objects.map applied ++ removed.map deleted

end WatchEvent

/-- Handles events in order, collecting what they ask for; an object that cannot be identified ends
the handling. The answer has the state of the index, one demand for every event that was handled,
and the error, if there was one. -/
def handleAll {α : Type u} {σ : Type v} {δ : Type w}
    (handle : σ → WatchEvent α → Except IdentityError (σ × δ)) :
    σ → List (WatchEvent α) → σ × List δ × Option IdentityError
  | s, [] => (s, [], none)
  | s, e :: rest =>
    match handle s e with
    | .error err => (s, [], some err)
    | .ok (s, d) =>
      let (s, ds, err) := handleAll handle s rest
      (s, d :: ds, err)

/-- An index that handles one event by a law handles any number of them by it, until one comes that
cannot be handled, and then it knows of all before that one what it has to. Of the events of the
past the newest is the first. -/
theorem handleAll_by_law {α : Type u} {σ : Type v} {δ : Type w}
    {handle : σ → WatchEvent α → Except IdentityError (σ × δ)}
    {Knows : σ → List (WatchEvent α) → Prop} {good : WatchEvent α → Bool}
    {law : List (WatchEvent α) → WatchEvent α → δ}
    {inOrder : List (WatchEvent α) → List (WatchEvent α) → List δ}
    (hnil : ∀ past, inOrder past [] = [])
    (hcons : ∀ past e rest, inOrder past (e :: rest) = law past e :: inOrder (e :: past) rest)
    (hcases : ∀ {s past}, Knows s past → ∀ e,
      (good e = true ∧ ∃ t, handle s e = .ok (t, law past e) ∧ Knows t (e :: past)) ∨
        good e = false ∧ ∃ err, handle s e = .error err)
    {s : σ} {past : List (WatchEvent α)} (h : Knows s past) (events : List (WatchEvent α)) :
    (handleAll handle s events).2.1 = inOrder past (events.takeWhile good) ∧
      Knows (handleAll handle s events).1 ((events.takeWhile good).reverse ++ past) := by
  induction events generalizing s past with
  | nil => exact ⟨(hnil past).symm, h⟩
  | cons e rest ih =>
    rw [handleAll]
    rcases hcases h e with ⟨hgood, t, hhandle, hknows⟩ | ⟨hbad, err, hhandle⟩
    · obtain ⟨hasked, hlater⟩ := ih hknows
      have hpast : (e :: rest.takeWhile good).reverse ++ past =
          (rest.takeWhile good).reverse ++ e :: past := by simp
      rw [hhandle, List.takeWhile_cons_of_pos hgood, hcons, hpast]
      exact ⟨congrArg (law past e :: ·) hasked, hlater⟩
    · rw [hhandle, List.takeWhile_cons_of_neg (by simp [hbad])]
      exact ⟨(hnil past).symm, h⟩

end WorkspaceAccess
