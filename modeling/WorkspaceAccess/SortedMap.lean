import WorkspaceAccess.KeyOrder

/-!
# Maps Sorted by Key

A finite map is the list of its entries in strictly increasing order of their keys. The order makes
the representation unique, so two maps with the same look-ups are the same map (`SortedMap.ext`),
and a listing of the entries is already the listing that answers show.

That the entries are sorted is part of the type. Every operation proves once that it keeps the
order, and nothing that uses maps has to think of it again. Looking up is defined on lists of
entries (`lookup`), and the laws of the operations are all laws about look-ups, each from a lemma
about entry lists; proofs elsewhere use these laws and extensionality, and never the list.

Sets are maps to the unit type (`SortedSet`).

## Main results

* `SortedMap.ext`: maps with the same look-ups are equal.
* `SortedMap.mem_entries_iff`: the entries are exactly the look-ups that succeed.
* `SortedMap.get?_insert`, `get?_erase`, `get?_filter`, `get?_map`, `get?_insertAll`, `get?_merge`:
  what each operation does to look-ups.
* `SortedMap.contains_insert_iff`, `contains_erase_iff`, `mem_keys_iff`: what the operations do to
  the keys that are there.
* `SortedMap.keys_sorted`, `keys_insert_perm`: the keys are in their strict order, and a new key is
  added to the others.
* `SortedSet.mem_toList_ofList`: the set of a list has the members of the list.
-/

namespace WorkspaceAccess

universe u v w

/-- A finite map, held as its entries in strictly increasing order of their keys. -/
structure SortedMap (κ : Type u) (ν : Type v) [KeyOrder κ] where
  /-- The entries in the order of their keys. -/
  entries : List (κ × ν)
  /-- Each key comes strictly before the keys after it. -/
  sorted : entries.Pairwise fun a b => KeyOrder.Before a.1 b.1

namespace SortedMap

variable {κ : Type u} {ν : Type v} {μ : Type w} [KeyOrder κ]

instance [DecidableEq κ] [DecidableEq ν] : DecidableEq (SortedMap κ ν) := fun a b =>
  if h : a.entries = b.entries then .isTrue (by cases a; cases b; simp_all)
  else .isFalse fun e => h (e ▸ rfl)

/-! ### Entry lists -/

/-- The value under a key in a list of entries: the first one that is found. -/
def lookup (k : κ) : List (κ × ν) → Option ν
  | [] => none
  | e :: rest => if KeyOrder.compare k e.1 = .eq then some e.2 else lookup k rest

/-- Puts an entry where its key belongs, in place of an entry of the same key. -/
def insertEntry (k : κ) (x : ν) : List (κ × ν) → List (κ × ν)
  | [] => [(k, x)]
  | e :: rest =>
    match KeyOrder.compare k e.1 with
    | .lt => (k, x) :: e :: rest
    | .eq => (k, x) :: rest
    | .gt => e :: insertEntry k x rest

/-- An entry of the list after an insertion is the new one or was there before. -/
theorem mem_insertEntry {k : κ} {x : ν} {e : κ × ν} {l : List (κ × ν)} :
    e ∈ insertEntry k x l → e = (k, x) ∨ e ∈ l := by
  induction l with
  | nil => simp [insertEntry]
  | cons head tail ih =>
    simp only [insertEntry]
    split <;> simp only [List.mem_cons] <;> intro h
    · exact h
    · exact h.imp_right .inr
    · exact h.elim (fun h => .inr (.inl h)) fun h => (ih h).imp_right .inr

/-- Putting an entry where its key belongs keeps a list in order. The induction follows the search
for the place. -/
theorem insertEntry_sorted (k : κ) (x : ν) {l : List (κ × ν)}
    (h : l.Pairwise fun a b => KeyOrder.Before a.1 b.1) :
    (insertEntry k x l).Pairwise fun a b => KeyOrder.Before a.1 b.1 := by
  induction l with
  | nil => simp [insertEntry]
  | cons head tail ih =>
    obtain ⟨hHead, hTail⟩ := List.pairwise_cons.1 h
    simp only [insertEntry]
    split
    case h_1 hlt =>
      refine List.pairwise_cons.2 ⟨fun e he => ?_, h⟩
      rcases List.mem_cons.1 he with rfl | he
      · exact hlt
      · exact KeyOrder.Before.trans hlt (hHead e he)
    case h_2 heq =>
      obtain rfl := KeyOrder.compare_eq_iff.1 heq
      exact List.pairwise_cons.2 ⟨fun e he => hHead e he, hTail⟩
    case h_3 hgt =>
      refine List.pairwise_cons.2 ⟨fun e he => ?_, ih hTail⟩
      rcases mem_insertEntry he with rfl | he
      · exact KeyOrder.compare_eq_gt_iff.1 hgt
      · exact hHead e he

/-- After an insertion the key has the new value, and every other key the value that it had. -/
theorem lookup_insertEntry (k j : κ) (x : ν) (l : List (κ × ν)) :
    lookup j (insertEntry k x l) =
      if KeyOrder.compare j k = .eq then some x else lookup j l := by
  induction l with
  | nil => rfl
  | cons head tail ih =>
    simp only [insertEntry]
    split
    case h_1 => rfl
    case h_2 heq =>
      obtain rfl := KeyOrder.compare_eq_iff.1 heq
      simp only [lookup]; split <;> rfl
    case h_3 hgt =>
      simp only [lookup, ih]
      by_cases hj : KeyOrder.compare j head.1 = .eq
      · obtain rfl := KeyOrder.compare_eq_iff.1 hj
        have hjk : KeyOrder.compare head.1 k ≠ .eq := by
          rw [KeyOrder.compare_eq_gt_iff.1 hgt]; decide
        simp [KeyOrder.compare_self, hjk]
      · simp [hj]

/-- A key that comes before all keys of a list has no value in it. -/
theorem lookup_eq_none_of_forall {k : κ} {l : List (κ × ν)}
    (h : ∀ e ∈ l, KeyOrder.Before k e.1) : lookup k l = none := by
  induction l with
  | nil => rfl
  | cons head tail ih =>
    have hk := h head (by simp)
    rw [lookup, if_neg (by rw [hk]; decide)]
    exact ih fun e he => h e (by simp [he])

/-- In a sorted list the entries are exactly the look-ups that succeed. -/
theorem lookup_eq_some_iff {k : κ} {x : ν} {l : List (κ × ν)}
    (h : l.Pairwise fun a b => KeyOrder.Before a.1 b.1) :
    lookup k l = some x ↔ (k, x) ∈ l := by
  induction l with
  | nil => simp [lookup]
  | cons head tail ih =>
    obtain ⟨hHead, hTail⟩ := List.pairwise_cons.1 h
    simp only [lookup, List.mem_cons]
    by_cases hk : KeyOrder.compare k head.1 = .eq
    · obtain rfl := KeyOrder.compare_eq_iff.1 hk
      rw [if_pos hk]
      constructor
      · intro hx; exact .inl (by cases head; simp_all)
      · rintro (hx | hx)
        · rw [← hx]
        · exact absurd (hHead _ hx) (KeyOrder.before_irrefl _)
    · rw [if_neg hk, ih hTail]
      refine ⟨.inr, fun hx => hx.resolve_left fun e => hk ?_⟩
      rw [← e]; exact KeyOrder.compare_self k

/-- Two sorted lists with the same look-ups are the same list. -/
theorem eq_of_lookup_eq {l₁ l₂ : List (κ × ν)}
    (h₁ : l₁.Pairwise fun a b => KeyOrder.Before a.1 b.1)
    (h₂ : l₂.Pairwise fun a b => KeyOrder.Before a.1 b.1)
    (h : ∀ k, lookup k l₁ = lookup k l₂) : l₁ = l₂ := by
  induction l₁ generalizing l₂ with
  | nil =>
    cases l₂ with
    | nil => rfl
    | cons e tail => simpa [lookup, KeyOrder.compare_self] using h e.1
  | cons e₁ t₁ ih =>
    cases l₂ with
    | nil => simpa [lookup, KeyOrder.compare_self] using h e₁.1
    | cons e₂ t₂ =>
      obtain ⟨hHead₁, hTail₁⟩ := List.pairwise_cons.1 h₁
      obtain ⟨hHead₂, hTail₂⟩ := List.pairwise_cons.1 h₂
      have first : e₁ = e₂ := by
        have m₁ : (e₁.1, e₁.2) ∈ e₂ :: t₂ :=
          (lookup_eq_some_iff h₂).1 ((h e₁.1).symm.trans (by simp [lookup, KeyOrder.compare_self]))
        have m₂ : (e₂.1, e₂.2) ∈ e₁ :: t₁ :=
          (lookup_eq_some_iff h₁).1 ((h e₂.1).trans (by simp [lookup, KeyOrder.compare_self]))
        rcases List.mem_cons.1 m₁ with m₁ | m₁
        · exact m₁
        · rcases List.mem_cons.1 m₂ with m₂ | m₂
          · exact m₂.symm
          · exact (KeyOrder.Before.asymm (hHead₂ _ m₁) (hHead₁ _ m₂)).elim
      subst first
      congr 1
      refine ih hTail₁ hTail₂ fun k => ?_
      by_cases hk : KeyOrder.compare k e₁.1 = .eq
      · obtain rfl := KeyOrder.compare_eq_iff.1 hk
        rw [lookup_eq_none_of_forall fun e he => hHead₁ e he,
          lookup_eq_none_of_forall fun e he => hHead₂ e he]
      · have := h k
        rwa [lookup, lookup, if_neg hk, if_neg hk] at this

/-! ### Operations -/

/-- The map without entries. -/
def empty : SortedMap κ ν := ⟨[], .nil⟩

instance : EmptyCollection (SortedMap κ ν) := ⟨empty⟩

instance : Inhabited (SortedMap κ ν) := ⟨empty⟩

/-- The value under a key. -/
def get? (m : SortedMap κ ν) (k : κ) : Option ν := lookup k m.entries

/-- The value under a key, or the given one. -/
def getD (m : SortedMap κ ν) (k : κ) (default : ν) : ν := (m.get? k).getD default

/-- The key has a value. -/
def contains (m : SortedMap κ ν) (k : κ) : Bool := (m.get? k).isSome

/-- The map with the value `x` under the key `k`, in place of an earlier one. -/
def insert (m : SortedMap κ ν) (k : κ) (x : ν) : SortedMap κ ν :=
  ⟨insertEntry k x m.entries, insertEntry_sorted k x m.sorted⟩

/-- The entries whose key and value pass a test. -/
def filter (p : κ → ν → Bool) (m : SortedMap κ ν) : SortedMap κ ν :=
  ⟨m.entries.filter fun e => p e.1 e.2, m.sorted.filter _⟩

/-- The map without the key `k`. -/
def erase (m : SortedMap κ ν) (k : κ) : SortedMap κ ν :=
  m.filter fun j _ => KeyOrder.compare j k != .eq

/-- The map with every value replaced by its image. -/
def map (f : ν → μ) (m : SortedMap κ ν) : SortedMap κ μ :=
  ⟨m.entries.map fun e => (e.1, f e.2), List.pairwise_map.2 m.sorted⟩

/-- The map with the listed entries added one after the other, later ones in place of earlier
ones. -/
def insertAll (m : SortedMap κ ν) (l : List (κ × ν)) : SortedMap κ ν :=
  l.foldl (fun m e => m.insert e.1 e.2) m

/-- The map of the listed entries, later ones in place of earlier ones. -/
def ofList (l : List (κ × ν)) : SortedMap κ ν := empty.insertAll l

/-- The entries of both maps; where both have a key, the value of the second. -/
def merge (m other : SortedMap κ ν) : SortedMap κ ν := m.insertAll other.entries

/-- The keys in their order. -/
def keys (m : SortedMap κ ν) : List κ := m.entries.map (·.1)

/-- The values in the order of their keys. -/
def values (m : SortedMap κ ν) : List ν := m.entries.map (·.2)

/-- The number of entries. -/
def size (m : SortedMap κ ν) : Nat := m.entries.length

/-- There is no entry. -/
def isEmpty (m : SortedMap κ ν) : Bool := m.entries.isEmpty

/-! ### What the operations do to look-ups -/

/-- Maps with the same look-ups are equal. -/
theorem ext {m₁ m₂ : SortedMap κ ν} (h : ∀ k, m₁.get? k = m₂.get? k) : m₁ = m₂ := by
  have := eq_of_lookup_eq m₁.sorted m₂.sorted h
  cases m₁; cases m₂; simp_all

/-- The entries are exactly the look-ups that succeed. -/
theorem mem_entries_iff {m : SortedMap κ ν} {k : κ} {x : ν} :
    (k, x) ∈ m.entries ↔ m.get? k = some x :=
  (lookup_eq_some_iff m.sorted).symm

/-- Nothing is found in the map without entries. -/
@[simp] theorem get?_empty (k : κ) : (empty : SortedMap κ ν).get? k = none := rfl

/-- Inserting a value changes the look-up of its key and of no other. -/
theorem get?_insert (m : SortedMap κ ν) (k j : κ) (x : ν) :
    (m.insert k x).get? j = if KeyOrder.compare j k = .eq then some x else m.get? j :=
  lookup_insertEntry k j x m.entries

/-- A value that was inserted is found under its key. -/
@[simp] theorem get?_insert_self (m : SortedMap κ ν) (k : κ) (x : ν) :
    (m.insert k x).get? k = some x := by
  rw [get?_insert, if_pos (KeyOrder.compare_self k)]

/-- Inserting under one key leaves the others alone. -/
theorem get?_insert_of_ne {m : SortedMap κ ν} {k j : κ} {x : ν} (h : j ≠ k) :
    (m.insert k x).get? j = m.get? j := by
  rw [get?_insert, if_neg fun e => h (KeyOrder.compare_eq_iff.1 e)]

/-- A look-up in a filtered map is the look-up, if it passes the test. -/
theorem get?_filter (m : SortedMap κ ν) (p : κ → ν → Bool) (k : κ) :
    (m.filter p).get? k = (m.get? k).filter (p k) := by
  apply Option.ext
  intro x
  rw [← mem_entries_iff, Option.filter_eq_some_iff, ← mem_entries_iff]
  simp [filter]

/-- Erasing a key changes the look-up of that key and of no other. -/
theorem get?_erase (m : SortedMap κ ν) (k j : κ) :
    (m.erase k).get? j = if KeyOrder.compare j k = .eq then none else m.get? j := by
  rw [erase, get?_filter]
  by_cases h : KeyOrder.compare j k = .eq <;> cases m.get? j <;> simp [h, Option.filter]

/-- A key that was erased has no value. -/
@[simp] theorem get?_erase_self (m : SortedMap κ ν) (k : κ) : (m.erase k).get? k = none := by
  rw [get?_erase, if_pos (KeyOrder.compare_self k)]

/-- Erasing one key leaves the others alone. -/
theorem get?_erase_of_ne {m : SortedMap κ ν} {k j : κ} (h : j ≠ k) :
    (m.erase k).get? j = m.get? j := by
  rw [get?_erase, if_neg fun e => h (KeyOrder.compare_eq_iff.1 e)]

/-- A key that gets a value need not be taken out before. -/
theorem insert_erase (m : SortedMap κ ν) (k : κ) (x : ν) :
    (m.erase k).insert k x = m.insert k x := by
  apply ext
  intro j
  rw [get?_insert, get?_insert, get?_erase]
  split <;> rfl

/-- A look-up in a mapped map is the image of the look-up. -/
theorem get?_map (m : SortedMap κ ν) (f : ν → μ) (k : κ) :
    (m.map f).get? k = (m.get? k).map f := by
  obtain ⟨l, hl⟩ := m
  show lookup k (l.map _) = (lookup k l).map f
  clear hl
  induction l with
  | nil => rfl
  | cons e rest ih => simp only [List.map_cons, lookup]; split <;> simp_all

/-- A new value that is mapped to the same as the old one is not seen in the mapped map. -/
theorem map_insert_of_eq {m : SortedMap κ ν} {k : κ} {x y : ν} {f : ν → μ}
    (hk : m.get? k = some x) (hf : f y = f x) : (m.insert k y).map f = m.map f := by
  apply ext
  intro j
  rw [get?_map, get?_map, get?_insert]
  split
  · rename_i hj
    obtain rfl := KeyOrder.compare_eq_iff.1 hj
    rw [hk, Option.map_some, Option.map_some, hf]
  · rfl

/-- The values of a mapped map are the images of the values, in the same order. -/
theorem values_map (m : SortedMap κ ν) (f : ν → μ) : (m.map f).values = m.values.map f := by
  simp [map, values]

/-- Adding a list of distinct keys: a key of the list gets its value, any other keeps its own. -/
theorem get?_insertAll {l : List (κ × ν)}
    (h : l.Pairwise fun a b => KeyOrder.Before a.1 b.1) (m : SortedMap κ ν) (k : κ) :
    (m.insertAll l).get? k = (lookup k l).or (m.get? k) := by
  induction l generalizing m with
  | nil => rfl
  | cons e rest ih =>
    obtain ⟨hHead, hTail⟩ := List.pairwise_cons.1 h
    rw [insertAll, List.foldl_cons, ← insertAll, ih hTail, get?_insert, lookup]
    by_cases hk : KeyOrder.compare k e.1 = .eq
    · obtain rfl := KeyOrder.compare_eq_iff.1 hk
      rw [lookup_eq_none_of_forall fun e he => hHead e he]
      simp [hk]
    · simp [hk]

/-- A key with a value is there. -/
theorem contains_of_get?_eq_some {m : SortedMap κ ν} {k : κ} {x : ν} (h : m.get? k = some x) :
    m.contains k = true := by
  rw [contains, h]
  rfl

/-- A key is missing just when it has no value. -/
theorem contains_eq_false_iff {m : SortedMap κ ν} {k : κ} :
    m.contains k = false ↔ m.get? k = none := by
  rw [contains, Option.isSome_eq_false_iff, Option.isNone_iff_eq_none]

/-- After an insertion the keys are those from before and the inserted one. -/
theorem contains_insert_iff {m : SortedMap κ ν} {k j : κ} {x : ν} :
    (m.insert k x).contains j = true ↔ j = k ∨ m.contains j = true := by
  by_cases h : j = k
  · subst h
    simp [contains]
  · simp [contains, get?_insert_of_ne h, h]

/-- After an erasure the keys are those from before without the erased one. -/
theorem contains_erase_iff {m : SortedMap κ ν} {k j : κ} :
    (m.erase k).contains j = true ↔ j ≠ k ∧ m.contains j = true := by
  by_cases h : j = k
  · subst h
    simp [contains]
  · simp [contains, get?_erase_of_ne h, h]

/-- The keys are exactly those with a value. -/
theorem mem_keys_iff {m : SortedMap κ ν} {k : κ} : k ∈ m.keys ↔ m.contains k = true := by
  rw [contains, Option.isSome_iff_exists]
  constructor
  · intro hk
    obtain ⟨⟨j, x⟩, hentry, rfl⟩ := List.mem_map.mp hk
    exact ⟨x, mem_entries_iff.mp hentry⟩
  · rintro ⟨x, hget⟩
    exact List.mem_map.mpr ⟨(k, x), mem_entries_iff.mpr hget, rfl⟩

/-- Every value is under a key. -/
theorem exists_get?_of_mem_values {m : SortedMap κ ν} {x : ν} (h : x ∈ m.values) :
    ∃ k, m.get? k = some x := by
  obtain ⟨⟨k, _⟩, hentry, rfl⟩ := List.mem_map.mp h
  exact ⟨k, mem_entries_iff.mp hentry⟩

/-- The keys are in their strict order. -/
theorem keys_sorted (m : SortedMap κ ν) : m.keys.Pairwise KeyOrder.Before :=
  List.pairwise_map.mpr m.sorted

/-- An entry of a new key is added to the others. -/
theorem insertEntry_perm {k : κ} {x : ν} {l : List (κ × ν)} (h : lookup k l = none) :
    (insertEntry k x l).Perm ((k, x) :: l) := by
  induction l with
  | nil => exact .refl _
  | cons head tail ih =>
    rw [lookup] at h
    split at h
    · cases h
    simp only [insertEntry]
    split
    · exact .refl _
    · contradiction
    · exact ((ih h).cons head).trans (.swap _ _ _)

/-- A new key is added to the others. -/
theorem keys_insert_perm {m : SortedMap κ ν} {k : κ} (h : m.get? k = none) (x : ν) :
    (m.insert k x).keys.Perm (k :: m.keys) := (insertEntry_perm h).map _

/-- A merged map answers from the second map first. -/
theorem get?_merge (m other : SortedMap κ ν) (k : κ) :
    (m.merge other).get? k = (other.get? k).or (m.get? k) :=
  get?_insertAll other.sorted m k

end SortedMap

/-! ### Sets -/

/-- A finite set, in the order of its members. -/
abbrev SortedSet (κ : Type u) [KeyOrder κ] := SortedMap κ Unit

namespace SortedSet

variable {κ : Type u} [KeyOrder κ]

/-- The set with one more member; a member that is there already is not added twice. -/
def add (s : SortedSet κ) (k : κ) : SortedSet κ := s.insert k ()

/-- The set of the listed members. -/
def ofList (l : List κ) : SortedSet κ := l.foldl add SortedMap.empty

/-- The members in their order. -/
def toList (s : SortedSet κ) : List κ := s.keys

/-- The members after an addition are those from before and the added one. -/
theorem contains_add_iff {s : SortedSet κ} {k j : κ} :
    (s.add k).contains j = true ↔ j = k ∨ s.contains j = true :=
  SortedMap.contains_insert_iff

/-- Adding a list adds what is in it. -/
theorem contains_foldl_add_iff {l : List κ} {s : SortedSet κ} {k : κ} :
    (l.foldl add s).contains k = true ↔ k ∈ l ∨ s.contains k = true := by
  induction l generalizing s with
  | nil => simp
  | cons j rest ih =>
    rw [List.foldl_cons, ih, contains_add_iff, List.mem_cons, or_assoc, or_left_comm]

/-- The set of a list has the same members. -/
theorem mem_toList_ofList {l : List κ} {k : κ} : k ∈ (ofList l).toList ↔ k ∈ l := by
  rw [toList, SortedMap.mem_keys_iff, ofList, contains_foldl_add_iff]
  simp [SortedMap.contains]

end SortedSet

end WorkspaceAccess
