import Mathlib.Data.List.DropRight
import Mathlib.Data.List.Infix
import WorkspaceAccess.Remote.ClusterUrl

/-!
# What Stands in Front of Logical Clusters

The root of a path is what stands before the first marker in it, or else the whole path without the
slashes at its end (`LogicalCluster.isRoot_root`). When a marker and a logical path are put behind a
root, the first marker of the result is that one, unless the root ends like a marker without its
last slash (`LogicalCluster.root_append_marker_iff`): of the parts of a marker only the last slash
also begins one, so that two markers can overlap in nothing else.

The search for the first occurrence is described by what it finds (`IsFirst`): the pattern stands
there and nowhere before. There is one such place at most, so that any argument about where the
pattern is decides what the search returns. The root is described in the same way (`IsRoot`), for a
path with a marker and for one without.

The two markers of a path that is put together overlap only if the end of one is the beginning of
the other. That is a question about nine characters and is decided for each length of the overlap,
which leaves one.

## Main results

* `IsFirst.unique`, `isFirst_of_before?`: the first place of a pattern, and that it is found.
* `isRoot_root`, `IsRoot.root_eq`: the root of a path is what stands in front of its logical
  clusters, and a path has only one.
* `infix_or_stem_suffix`: a marker that begins before another one has ended by then, or shares its
  last slash.
* `root_append_marker_of_stem`: if the root of a path ends like a marker without its last slash, a
  marker behind it makes the first one begin with that end.
* `root_append_marker_iff`: a path that is made of a root, a marker and a logical path has that
  root, unless the root ends so.
-/

namespace WorkspaceAccess

namespace LogicalCluster

variable {pattern text front path r tail rest earlier : List Char}

/-! ### The first occurrence of a pattern -/

/-- The pattern stands behind the front of a text, and nowhere before. -/
structure IsFirst (pattern text front : List Char) : Prop where
  /-- The pattern stands there: right behind the front, and something may follow. -/
  splits : ∃ rest, text = front ++ pattern ++ rest
  /-- It stands nowhere before, so that every other front is at least as long. -/
  first : ∀ earlier rest, text = earlier ++ pattern ++ rest → front.length ≤ earlier.length

/-- A pattern has only one first place in a text. -/
theorem IsFirst.unique {a b : List Char} (ha : IsFirst pattern text a)
    (hb : IsFirst pattern text b) : a = b := by
  obtain ⟨resta, htexta⟩ := ha.splits
  obtain ⟨restb, htextb⟩ := hb.splits
  have hlength : a.length = b.length :=
    Nat.le_antisymm (ha.first b restb htextb) (hb.first a resta htexta)
  have heq : a ++ (pattern ++ resta) = b ++ (pattern ++ restb) := by
    rw [← List.append_assoc, ← List.append_assoc, ← htexta, ← htextb]
  exact List.append_inj_left heq hlength

/-- What is before the first occurrence of a pattern. -/
theorem isFirst_of_before? (h : before? pattern text = some front) :
    IsFirst pattern text front := by
  induction text generalizing front with
  | nil =>
    rw [before?] at h
    split at h
    · rename_i hempty
      cases h
      exact ⟨⟨[], by simpa using hempty⟩, fun _ _ _ => Nat.zero_le _⟩
    · cases h
  | cons c text ih =>
    rw [before?] at h
    split at h
    · rename_i hprefix
      cases h
      obtain ⟨rest, hrest⟩ := List.isPrefixOf_iff_prefix.mp hprefix
      exact ⟨⟨rest, hrest.symm⟩, fun _ _ _ => Nat.zero_le _⟩
    · rename_i hprefix
      obtain ⟨front, hfront, rfl⟩ := Option.map_eq_some_iff.mp h
      obtain ⟨⟨rest, hrest⟩, hfirst⟩ := ih hfront
      refine ⟨⟨rest, by rw [hrest]; rfl⟩, fun earlier rest hearlier => ?_⟩
      cases earlier with
      | nil => exact absurd (List.isPrefixOf_iff_prefix.mpr ⟨rest, hearlier.symm⟩) hprefix
      | cons d earlier =>
        have htail : text = earlier ++ pattern ++ rest := (List.cons.inj hearlier).2
        exact Nat.succ_le_succ (hfirst earlier rest htail)

/-- Where nothing is before it, there is no occurrence of the pattern. -/
theorem not_infix_of_before? (h : before? pattern text = none) : ¬pattern <:+: text := by
  induction text with
  | nil =>
    rw [before?] at h
    split at h
    · cases h
    · rename_i hempty
      exact fun hinfix => hempty (by simpa using hinfix)
  | cons c text ih =>
    rw [before?] at h
    split at h
    · cases h
    · rename_i hprefix
      intro hinfix
      rcases List.infix_cons_iff.mp hinfix with hfront | hrest
      · exact hprefix (List.isPrefixOf_iff_prefix.mpr hfront)
      · exact ih (Option.map_eq_none_iff.mp h) hrest

/-! ### The root of a path -/

/-- What stands in front of the logical clusters of a path. -/
inductive IsRoot (path : List Char) : List Char → Prop
  /-- It is what is before the first marker. -/
  | marked {front : List Char} (h : IsFirst marker path front) : IsRoot path front
  /-- If there is no marker, it is the path without the slashes at its end. -/
  | unmarked {front slashes : List Char} (h : ¬marker <:+: path) (hpath : path = front ++ slashes)
      (hslashes : ∀ c ∈ slashes, c = '/') (hend : front.getLast? ≠ some '/') : IsRoot path front

/-- The root of a path is what stands in front of its logical clusters. -/
theorem isRoot_root (path : List Char) : IsRoot path (root path) := by
  rw [root]
  cases h : before? marker path with
  | some front => exact .marked (isFirst_of_before? h)
  | none =>
    let isSlash : Char → Bool := (· == '/')
    have hpath : path = path.rdropWhile isSlash ++ path.rtakeWhile isSlash :=
      List.rdropWhile_append_rtakeWhile.symm
    refine .unmarked (not_infix_of_before? h) hpath (fun c hc => ?_) fun hlast => ?_
    · have hslash : isSlash c = true := List.mem_rtakeWhile_imp hc
      exact beq_iff_eq.mp hslash
    · have hne : path.rdropWhile isSlash ≠ [] := fun hnil => by
        have hlast' : (path.rdropWhile isSlash).getLast? = some '/' := hlast
        rw [hnil] at hlast'
        cases hlast'
      have hlast' : (path.rdropWhile isSlash).getLast hne = '/' :=
        Option.some.inj ((List.getLast?_eq_some_getLast hne).symm.trans hlast)
      exact List.rdropWhile_last_not isSlash path hne (beq_iff_eq.mpr hlast')

/-- The root is a part of the path, at its beginning. -/
theorem IsRoot.isPrefix (h : IsRoot path r) : r <+: path := by
  cases h with
  | marked h =>
    obtain ⟨rest, hrest⟩ := h.splits
    exact ⟨marker ++ rest, by rw [hrest, List.append_assoc]⟩
  | unmarked _ hpath => exact ⟨_, hpath.symm⟩

/-- There is no marker in a root, since the first one ends it. -/
theorem IsRoot.not_infix (h : IsRoot path r) : ¬marker <:+: r := by
  intro hinfix
  cases h with
  | marked h =>
    obtain ⟨earlier, rest, hr⟩ := hinfix
    obtain ⟨tail, hpath⟩ := h.splits
    have hle := h.first earlier (rest ++ (marker ++ tail)) (by
      rw [hpath, ← hr]
      simp only [List.append_assoc])
    have hlength := congrArg List.length hr
    have hmarker : marker.length = 10 := rfl
    rw [List.length_append, List.length_append] at hlength
    omega
  | unmarked h hpath => exact h (hpath ▸ hinfix.trans (List.prefix_append _ _).isInfix)

/-- The first marker in a path tells its root. -/
theorem IsFirst.root_eq (h : IsFirst marker path front) : root path = front := by
  cases isRoot_root path with
  | marked hroot => exact hroot.unique h
  | unmarked hnone =>
    obtain ⟨rest, hrest⟩ := h.splits
    exact absurd ⟨front, rest, hrest.symm⟩ hnone

/-- Where slashes end does not depend on how they are split off. -/
theorem eq_of_append_slashes {a b c d : List Char} (h : a ++ b = c ++ d) (hb : ∀ x ∈ b, x = '/')
    (hd : ∀ x ∈ d, x = '/') (ha : a.getLast? ≠ some '/') (hc : c.getLast? ≠ some '/') : a = c := by
  -- Of two fronts the longer one would end with a slash.
  have hshorter : ∀ {a b c d : List Char}, (∀ x ∈ b, x = '/') → c.getLast? ≠ some '/' →
      ∀ more, c = a ++ more → b = more ++ d → a = c := by
    intro a b c d hb hc more hmore hsplit
    cases more using List.reverseRecOn with
    | nil => rw [hmore, List.append_nil]
    | append_singleton more x =>
      have hx : x = '/' := hb x (by rw [hsplit]; simp)
      refine absurd ?_ hc
      rw [hmore, hx, ← List.append_assoc, List.getLast?_concat]
  rcases List.append_eq_append_iff.mp h with ⟨more, hmore, hsplit⟩ | ⟨more, hmore, hsplit⟩
  · exact hshorter hb hc more hmore hsplit
  · exact (hshorter hd ha more hmore hsplit).symm

/-- A path has only one root, which is the one that is computed. -/
theorem IsRoot.root_eq (h : IsRoot path r) : root path = r := by
  cases h with
  | marked h => exact h.root_eq
  | unmarked hnone hpath hslashes hend =>
    cases isRoot_root path with
    | marked hroot =>
      obtain ⟨rest, hrest⟩ := hroot.splits
      exact absurd ⟨root path, rest, hrest.symm⟩ hnone
    | unmarked _ hpath' hslashes' hend' =>
      exact eq_of_append_slashes (hpath'.symm.trans hpath) hslashes' hslashes hend' hend

/-! ### A marker behind a root -/

/-- A marker without its last slash, which is where a marker may overlap another one. -/
def stem : List Char := "/clusters".toList

/-- A part at the end of a marker that begins a marker is its last slash, or nothing or all of
it. -/
theorem eq_stem_of_overlap {overlap shared : List Char} (h : marker = overlap ++ shared)
    (hshared : shared <+: marker) : overlap = [] ∨ overlap = stem ∨ overlap = marker := by
  have hborders : ∀ n ≤ 10, (marker.drop n).isPrefixOf marker = true →
      marker.take n = [] ∨ marker.take n = stem ∨ marker.take n = marker := by decide
  have hlength : overlap.length ≤ 10 := by
    have hmarker : marker.length = 10 := rfl
    rw [← hmarker, h, List.length_append]
    exact Nat.le_add_right _ _
  have hdrop : marker.drop overlap.length = shared := by rw [h, List.drop_left]
  have htake : marker.take overlap.length = overlap := by rw [h, List.take_left]
  have hborder := hborders overlap.length hlength
  rw [hdrop, htake] at hborder
  exact hborder (List.isPrefixOf_iff_prefix.mpr hshared)

/-- A marker that begins before another one has ended by then, or shares its last slash. -/
theorem infix_or_stem_suffix (h : r ++ marker ++ tail = earlier ++ marker ++ rest)
    (hlt : earlier.length < r.length) : marker <:+: r ∨ stem <:+ r := by
  rw [List.append_assoc, List.append_assoc] at h
  rcases List.append_eq_append_iff.mp h with ⟨more, hearlier, -⟩ | ⟨overlap, hr, hrest⟩
  · rw [hearlier, List.length_append] at hlt
    omega
  · have hne : overlap ≠ [] := by
      rintro rfl
      rw [hr, List.append_nil] at hlt
      omega
    rcases List.append_eq_append_iff.mp hrest with ⟨more, hmore, -⟩ | ⟨shared, hmarker, hshared⟩
    · exact .inl ⟨earlier, more, by rw [hr, hmore, List.append_assoc]⟩
    · have hprefix : shared <+: marker := by
        refine List.prefix_of_prefix_length_le ⟨rest, hshared.symm⟩ ⟨tail, rfl⟩ ?_
        rw [hmarker, List.length_append]
        omega
      rcases eq_stem_of_overlap hmarker hprefix with hnil | hstem | hall
      · exact absurd hnil hne
      · exact .inr ⟨earlier, by rw [hr, hstem]⟩
      · exact .inl ⟨earlier, [], by rw [hr, hall, List.append_nil]⟩

/-- If the root of a path ends like a marker without its last slash, a marker behind it makes the
first one begin with that end. -/
theorem root_append_marker_of_stem (h : IsRoot path (front ++ stem)) (tail : List Char) :
    root (front ++ stem ++ marker ++ tail) = front := by
  have hmarkers : stem ++ marker = marker ++ "clusters/".toList := by decide
  have hfirst : IsFirst marker (front ++ stem ++ marker ++ tail) front := by
    refine ⟨⟨"clusters/".toList ++ tail, ?_⟩, fun earlier rest hearlier => ?_⟩
    · rw [List.append_assoc front, hmarkers]
      simp only [List.append_assoc]
    · -- A marker that began before would be over within the root.
      by_contra hlt
      obtain ⟨more, hmore⟩ : earlier ++ marker <+: front ++ stem := by
        refine List.prefix_of_prefix_length_le ⟨rest, hearlier.symm⟩ ⟨marker ++ tail, ?_⟩ ?_
        · simp only [List.append_assoc]
        · have hmarker : marker.length = 10 := rfl
          have hpos : stem.length = 9 := by decide
          rw [List.length_append, List.length_append]
          omega
      exact h.not_infix ⟨earlier, more, hmore⟩
  exact hfirst.root_eq

/-- A path that is made of a root, a marker and a logical path has that root, unless the root ends
like a marker without its last slash. -/
theorem root_append_marker_iff (h : IsRoot path r) (tail : List Char) :
    root (r ++ marker ++ tail) = r ↔ ¬stem <:+ r := by
  constructor
  · rintro hroot ⟨front, rfl⟩
    have hlost := (root_append_marker_of_stem h tail).symm.trans hroot
    have hlength := congrArg List.length hlost
    have hpos : stem.length = 9 := by decide
    rw [List.length_append] at hlength
    omega
  · intro hstem
    have hfirst : IsFirst marker (r ++ marker ++ tail) r := by
      refine ⟨⟨tail, rfl⟩, fun earlier rest hearlier => ?_⟩
      by_contra hlt
      rcases infix_or_stem_suffix hearlier (Nat.lt_of_not_le hlt) with hinfix | hsuffix
      · exact h.not_infix hinfix
      · exact hstem hsuffix
    exact hfirst.root_eq

end LogicalCluster

end WorkspaceAccess
