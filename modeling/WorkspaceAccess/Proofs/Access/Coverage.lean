import WorkspaceAccess.Proofs.Access.Convergence
import WorkspaceAccess.Proofs.Access.FullRebuild

/-!
# Workspaces That a Sweep Covers

A sweep covers a workspace when it will have left a binding there if it ends well. Whatever can
receive a binding is covered by every sweep that has not yet listed the workspaces. From then on the
sweep has the workspace left to write, or has written it, or has failed.

Covering is a property of a leg and of the bindings that are there, not of what the sweep will do:
`Leg.Covers` is decided at each leg by what the sweep knows, and the step lemma says that a move
leads from a leg that covers the workspace to another one that does. Since no sweep removes a
binding, and neither does anyone else in the programs in which this is used, what one sweep covers
stays covered while others make their moves (`Leg.Covers.mono`).

Whether the binding that is left has the right subjects is another matter. This module is about
there being one at all, which is what is left to say when the roster is edited all the time.

## Main results

* `Leg.Covers.mono`: a workspace that is covered stays so while bindings are not removed.
* `Leg.Move.keepsBound`, `Leg.Move.isBound_of_written`: no move removes a binding, and a binding
  that a move writes is there.
* `Leg.Move.covers`: a sweep that covers a workspace which can receive a binding still does after a
  move.
-/

namespace WorkspaceAccess

/-- The workspace has a binding, whatever its content is. -/
def InMemory.IsBound (r : InMemory) (w : String) : Prop := r.bindings.contains w = true

/-- What has a binding in the old control plane has one in the new, though it may be another one. -/
def InMemory.KeepsBound (old new : InMemory) : Prop := ∀ w, old.IsBound w → new.IsBound w

namespace Sweep

variable {w : String} {old new : InMemory}

/-- The sweep leaves a binding in the workspace if it ends well. -/
def Leg.Covers (w : String) (r : InMemory) : Leg Unit → Prop
  | connecting | listing _ => True
  | reading _ workspaces => w ∈ workspaces.map (·.name)
  | choosing _ left o => o.failures = [] → w ∈ left.map (·.name) ∨ r.IsBound w
  | writing _ ws left o => o.failures = [] → w ∈ (ws :: left).map (·.name) ∨ r.IsBound w
  | recording _ o | patching _ o _ => o.failures = [] → r.IsBound w
  | ended result => ∀ action, result = .ok action → r.IsBound w

/-- A workspace that is covered stays so while bindings are not removed. -/
theorem Leg.Covers.mono {leg : Leg Unit} (h : leg.Covers w old) (hkeeps : old.KeepsBound new) :
    leg.Covers w new := by
  cases leg with
  | connecting | listing => trivial
  | reading => exact h
  | choosing | writing => exact fun hnone => (h hnone).imp_right (hkeeps w)
  | recording | patching => exact fun hnone => hkeeps w (h hnone)
  | ended => exact fun action haction => hkeeps w (h action haction)

section

variable {wall : Instant → Timestamp} {trigger : Trigger} {deadline now : Instant}
  {world later : World} {leg next : Leg Unit} {deed : Deed Unit}

/-- A binding that a move writes is there afterwards. -/
theorem Leg.Move.isBound_of_written
    (h : Leg.Move (World.host wall) trigger deadline now world leg deed next later)
    (hwritten : written? deed = some w) : later.remote.IsBound w := by
  obtain ⟨_, _, _, _, -, -, hbindings⟩ := h.of_written hwritten
  rw [InMemory.IsBound, SortedMap.contains, hbindings, SortedMap.get?_insert_self]
  rfl

/-- No move of a sweep removes a binding, so a workspace that has one keeps it. -/
theorem Leg.Move.keepsBound
    (h : Leg.Move (World.host wall) trigger deadline now world leg deed next later) :
    world.remote.KeepsBound later.remote := by
  intro v hv
  by_cases hwritten : written? deed = some v
  · exact h.isBound_of_written hwritten
  · rw [InMemory.IsBound, SortedMap.contains, h.of_not_written hwritten]
    exact hv

/-- A sweep that covers a workspace which can receive a binding still does after a move. -/
theorem Leg.Move.covers (hnamed : world.remote.WellNamed) (htarget : world.remote.IsTarget w)
    (hcovers : leg.Covers w world.remote)
    (h : Leg.Move (World.host wall) trigger deadline now world leg deed next later) :
    next.Covers w later.remote := by
  have hkeeps := h.keepsBound
  have hwritten : written? deed = some w → later.remote.IsBound w := h.isBound_of_written
  cases h with
  | connect => trivial
  | list hanswer =>
    obtain rfl := InMemory.eq_targets_of_listWorkspaces (Prod.mk.inj hanswer).1
    exact hnamed.mem_targetNames.mpr htarget
  | connectFails | listFails | readFails | giveUpConnect | giveUpList | giveUpRead
  | recordFails => exact nofun
  | read => exact fun _ => .inl hcovers
  | abandon | giveUpWrite | writeFails =>
    exact fun hnone => absurd hnone (failures_fail_ne _ _ _)
  | choose => exact hcovers
  | write =>
    intro hnone
    rcases hcovers hnone with hleft | hbound
    · rcases List.mem_cons.mp hleft with rfl | hleft
      · exact .inr (hwritten rfl)
      · exact .inl hleft
    · exact .inr (hkeeps w hbound)
  | @report basis o =>
    have hbound : o.failures = [] → world.remote.IsBound w := fun hnone =>
      (hcovers hnone).resolve_left List.not_mem_nil
    cases trigger with
    | staffMember id => exact hbound
    | workspaces => exact fun action haction => hbound (failures_of_conclude haction)
  | time => exact hcovers
  | record => exact fun action haction => hkeeps w (hcovers (failures_of_conclude haction))

end

end Sweep

end WorkspaceAccess
