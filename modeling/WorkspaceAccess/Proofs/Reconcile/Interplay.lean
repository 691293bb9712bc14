import WorkspaceAccess.Proofs.Reconcile.Turn

/-!
# Activities That Share a World

Any number of activities are started at any time, take turns in any order, and in between the world
is changed from outside. The log holds what happened, the newest first.

Which activities may be started and how the world may be changed are parameters (`Cast`): what is
proved about an interplay holds for all the others that are let in. A cast may be as narrow as the
reconciles of projects among others who leave their annotations alone, or as wide as all sweeps
among others who do what they like. Its changes have kinds, so that the log can tell apart what
matters for a statement.

Invariants over an interplay have two parts, one about the world and one about what is left of each
activity, and the second may depend on the log and on the number of the activity. `Each` states the
second one, and `Cast.Keeps` says what has to be shown when neither depends on the log: for a start,
for a turn and for a change.

## Main results

* `turn_cases`: a turn changes nothing, or it is one of the activity of that number.
* `Each.concat`, `Each.set`: a property of all activities, with one more or with one that has gone
  on.
* `Reachable.keeps`: what is kept by all that may happen is kept throughout.
* `Reachable.run`, `Reachable.turns`: some turns of one activity are a part of an interplay.
* `Reachable.proceed`, `Reachable.resume`: the activities in progress of a simulation are an
  interplay, since what they do without a break are turns.
-/

namespace WorkspaceAccess

/-- What can happen when activities share a world. The changes from outside are of several
kinds. -/
inductive Occurrence (σ χ : Type) where
  /-- The activity of this number is started. -/
  | started (i : Nat)
  /-- The activity of a number takes a turn. -/
  | did (i : Nat) (deed : Deed σ)
  /-- The world is changed from outside, by a change of this kind. -/
  | changed (kind : χ)

/-- The activities that were started, in the world that they share. -/
structure Interplay (σ χ ω α : Type) where
  /-- The world that all of the activities share. -/
  world : ω
  /-- What is left of the activities, by their numbers. -/
  activities : List (Activity σ α) := []
  /-- What happened so far, the latest first. -/
  log : List (Occurrence σ χ) := []

namespace Interplay

variable {σ χ ω α : Type}

/-- An activity is started: it joins the others, with all of it still to be done. -/
def start (s : Interplay σ χ ω α) (a : Activity σ α) : Interplay σ χ ω α :=
  { s with activities := s.activities ++ [a], log := .started s.activities.length :: s.log }

/-- The activity of a number takes a turn, if it is there and not at its end. -/
def turn (host : Host σ ω) (i : Nat) (now : Instant) (inTime : Bool) (s : Interplay σ χ ω α) :
    Interplay σ χ ω α :=
  match s.activities[i]?.bind (·.turn? host now inTime s.world) with
  | none => s
  | some (a, deed, world) =>
    { world, activities := s.activities.set i a, log := .did i deed :: s.log }

/-- The activity of a number takes some turns, and all its calls are answered. -/
def run (host : Host σ ω) (i : Nat) (now : Instant) :
    Nat → Interplay σ χ ω α → Interplay σ χ ω α
  | 0, s => s
  | n + 1, s => run host i now n (s.turn host i now true)

/-- The world is changed from outside, in a way that is named by its kind. -/
def change (kind : χ) (world : ω) (s : Interplay σ χ ω α) : Interplay σ χ ω α :=
  { s with world, log := .changed kind :: s.log }

/-- Who takes part: the activities that may be started, and the changes from outside. -/
structure Cast (σ χ ω α : Type) where
  /-- What answers the calls of the activities, in their world. -/
  host : Host σ ω
  /-- Which activities may be started, at any time. -/
  MayStart : Activity σ α → Prop
  /-- A change of some kind may be made. -/
  MayChange : χ → ω → ω → Prop

/-- What may happen next. -/
inductive Step (cast : Cast σ χ ω α) : Interplay σ χ ω α → Interplay σ χ ω α → Prop
  /-- An activity that may be started is, and gets the next number. -/
  | start (s : Interplay σ χ ω α) {a : Activity σ α} (ha : cast.MayStart a) :
      Step cast s (s.start a)
  /-- An activity takes a turn, its call answered in time or given up. -/
  | turn (s : Interplay σ χ ω α) (i : Nat) (now : Instant) (inTime : Bool) :
      Step cast s (s.turn cast.host i now inTime)
  /-- The world is changed from outside, as others may. -/
  | change (s : Interplay σ χ ω α) {kind : χ} {world : ω}
      (h : cast.MayChange kind s.world world) : Step cast s (s.change kind world)

/-- What comes about in a world without activities. -/
inductive Reachable (cast : Cast σ χ ω α) (world : ω) : Interplay σ χ ω α → Prop
  /-- Nothing has happened, and no activity is started. -/
  | initial : Reachable cast world { world }
  /-- Something more happens, of what may happen next. -/
  | next {s t : Interplay σ χ ω α} (h : Reachable cast world s) (step : Step cast s t) :
      Reachable cast world t

variable {cast : Cast σ χ ω α} {s : Interplay σ χ ω α} {i : Nat} {now : Instant} {inTime : Bool}

/-- A turn changes nothing, or it is one of the activity of that number. -/
theorem turn_cases (host : Host σ ω) (i : Nat) (now : Instant) (inTime : Bool)
    (s : Interplay σ χ ω α) :
    s.turn host i now inTime = s ∨
      ∃ a b deed world, s.activities[i]? = some a ∧
        a.turn? host now inTime s.world = some (b, deed, world) ∧
        s.turn host i now inTime =
          { world, activities := s.activities.set i b, log := .did i deed :: s.log } := by
  rw [turn]
  cases ha : s.activities[i]? with
  | none => exact .inl rfl
  | some a =>
    cases hturn : a.turn? host now inTime s.world with
    | none =>
      refine .inl ?_
      simp only [Option.bind_some, hturn]
    | some result =>
      obtain ⟨b, deed, world⟩ := result
      refine .inr ⟨a, b, deed, world, rfl, hturn, ?_⟩
      simp only [Option.bind_some, hturn]

/-- Every activity has a property, which may depend on its number. -/
def Each (P : Nat → Activity σ α → Prop) (activities : List (Activity σ α)) : Prop :=
  ∀ i a, activities[i]? = some a → P i a

namespace Each

variable {P Q : Nat → Activity σ α → Prop} {activities : List (Activity σ α)} {a : Activity σ α}

/-- A property that follows from one that all activities have is one that all have. -/
theorem imp (h : Each P activities) (himp : ∀ i a, P i a → Q i a) : Each Q activities :=
  fun i a ha => himp i a (h i a ha)

/-- One more activity has the property as well, under the number that it gets. -/
theorem concat (h : Each P activities) (hnew : P activities.length a) :
    Each P (activities ++ [a]) := by
  intro i b hb
  rcases Nat.lt_or_ge i activities.length with hi | hi
  · rw [List.getElem?_append_left hi] at hb
    exact h i b hb
  · rw [List.getElem?_append_right hi, List.getElem?_singleton] at hb
    split at hb
    · obtain rfl : i = activities.length := by omega
      exact Option.some.inj hb ▸ hnew
    · cases hb

/-- What is left of an activity has the property as well. -/
theorem set (h : Each P activities) {i : Nat} (hnew : P i a) : Each P (activities.set i a) := by
  intro j b hb
  rw [List.getElem?_set] at hb
  split at hb
  · subst i
    split at hb
    · exact Option.some.inj hb ▸ hnew
    · cases hb
  · exact h j b hb

end Each

/-- All that may happen keeps a property of the world and one of the activities. -/
structure Cast.Keeps (cast : Cast σ χ ω α) (I : ω → Prop) (P : Activity σ α → Prop) : Prop where
  /-- The activities that may be started have the property of activities. -/
  start {a : Activity σ α} (ha : cast.MayStart a) : P a
  /-- A turn keeps the property of the activity and that of the world. -/
  turn {a b : Activity σ α} {deed : Deed σ} {world later : ω} {now : Instant} {inTime : Bool}
    (ha : P a) (hworld : I world)
    (hturn : a.turn? cast.host now inTime world = some (b, deed, later)) : P b ∧ I later
  /-- A change keeps the one of the world. -/
  change {kind : χ} {world later : ω} (hworld : I world)
    (h : cast.MayChange kind world later) : I later

/-- What is kept by all that may happen is kept throughout. -/
theorem Reachable.keeps {I : ω → Prop} {P : Activity σ α → Prop} {world : ω}
    (hkeeps : cast.Keeps I P) (hworld : I world) (h : Reachable cast world s) :
    I s.world ∧ Each (fun _ => P) s.activities := by
  induction h with
  | initial => exact ⟨hworld, nofun⟩
  | @next s t _ step ih =>
    obtain ⟨hworld, hactivities⟩ := ih
    cases step with
    | start ha => exact ⟨hworld, hactivities.concat (hkeeps.start ha)⟩
    | turn i now inTime =>
      rcases turn_cases cast.host i now inTime s with
        hsame | ⟨a, b, deed, later, ha, hturn, hnext⟩
      · rw [hsame]
        exact ⟨hworld, hactivities⟩
      · obtain ⟨hb, hlater⟩ := hkeeps.turn (hactivities i a ha) hworld hturn
        rw [hnext]
        exact ⟨hlater, hactivities.set hb⟩
    | change h => exact ⟨hkeeps.change hworld h, hactivities⟩

/-- Some turns of one activity are a part of an interplay. -/
theorem Reachable.run {start : ω} (h : Reachable cast start s) (i : Nat) (now : Instant)
    (n : Nat) : Reachable cast start (s.run cast.host i now n) := by
  induction n generalizing s with
  | zero => exact h
  | succ n ih => exact ih (h.next (.turn s i now true))

/-- The turns of one activity with nothing in between are a part of an interplay. -/
theorem Reachable.turns {start : ω} {a b : Activity σ α} {world later : ω}
    (h : Reachable cast start s) (hturns : Turns cast.host now a world b later)
    (hworld : s.world = world) (ha : s.activities[i]? = some a) :
    ∃ t, Reachable cast start t ∧ t.world = later ∧ t.activities = s.activities.set i b := by
  induction hturns generalizing s with
  | refl a world =>
    refine ⟨s, h, hworld, ?_⟩
    obtain ⟨hi, rfl⟩ := List.getElem?_eq_some_iff.mp ha
    exact (List.set_getElem_self hi).symm
  | @step a b c deed world between later inTime hturn _ ih =>
    have hstep := h.next (.turn s i now inTime)
    have hnext : s.turn cast.host i now inTime =
        { world := between, activities := s.activities.set i b, log := .did i deed :: s.log } := by
      rw [turn, ha, hworld]
      simp only [Option.bind_some, hturn]
    rw [hnext] at hstep
    have hi : i < s.activities.length := (List.getElem?_eq_some_iff.mp ha).1
    obtain ⟨t, ht, hlater, hactivities⟩ := ih hstep rfl (by simp [hi])
    exact ⟨t, ht, hlater, hactivities.trans (List.set_set ..)⟩

/-- An activity that goes on until it has to wait is a part of an interplay. -/
theorem Reachable.proceed {start later : ω} {a : Activity σ α} {p : Progress σ α}
    (h : Reachable cast start s) (ha : s.activities[i]? = some a)
    (hproceed : a.proceed cast.host s.world now = (p, later)) :
    ∃ t b, Reachable cast start t ∧ t.world = later ∧ t.activities = s.activities.set i b ∧
      p.IsAt b := by
  obtain ⟨b, hturns, hb⟩ := turns_proceed a hproceed
  obtain ⟨t, ht, hworld, hactivities⟩ := h.turns hturns rfl ha
  exact ⟨t, b, ht, hworld, hactivities, hb⟩

/-- An activity that goes on after a wait is a part of an interplay. -/
theorem Reachable.resume {start later : ω} {a : Activity σ α} {pause : Pause σ α}
    {p : Progress σ α} (h : Reachable cast start s) (ha : s.activities[i]? = some a)
    (hpause : pause.IsAt a) (hresume : pause.resume cast.host s.world now = (p, later)) :
    ∃ t b, Reachable cast start t ∧ t.world = later ∧ t.activities = s.activities.set i b ∧
      p.IsAt b := by
  obtain ⟨b, hturns, hb⟩ := turns_resume hpause hresume
  obtain ⟨t, ht, hworld, hactivities⟩ := h.turns hturns rfl ha
  exact ⟨t, b, ht, hworld, hactivities, hb⟩

end Interplay

end WorkspaceAccess
