/-!
# Orders on Keys

Maps, rosters and listings are kept in the order of their keys, and that order is visible in every
answer, so it belongs to the type of the key. `KeyOrder κ` is a linear order on `κ` given by a
comparison; strings are ordered by the bytes of their UTF-8 encoding.

A comparison is preferred to a relation because maps are computed with: one comparison tells the
three cases apart. The class carries the laws of the comparison as the standard library states them
(`Std.TransCmp`, `Std.LawfulEqCmp`), and the strict order `KeyOrder.Before`, in which the proofs
speak, is derived from it. Proofs about sorted lists then use the few lemmas below and never look at
how keys are compared.

## Main results

* `KeyOrder.compare_eq_iff`: keys compare equal only if they are equal.
* `KeyOrder.before_irrefl`, `KeyOrder.Before.trans`: the strict order is irreflexive and transitive,
  and hence asymmetric (`KeyOrder.Before.asymm`).
* `KeyOrder.compare_eq_gt_iff`: a comparison the other way says the same, so that of two keys one
  comes before the other or they are equal.
* `KeyOrder.ofInjective`: every injection into an ordered type carries the order back. Texts get
  theirs from their bytes in this way (`utf8Bytes_injective`).
-/

namespace WorkspaceAccess

universe u v

/-- A linear order on the keys of a map, given by a comparison that keeps the laws of one. -/
class KeyOrder (κ : Type u) where
  /-- How two keys lie to each other. -/
  compare : κ → κ → Ordering
  /-- The comparison is transitive, and swapping its arguments swaps its answer. -/
  trans : Std.TransCmp compare
  /-- Keys that compare equal are equal. -/
  lawfulEq : Std.LawfulEqCmp compare

namespace KeyOrder

attribute [instance] KeyOrder.trans KeyOrder.lawfulEq

variable {κ : Type u} [KeyOrder κ]

/-- The key `a` comes strictly before the key `b`: the order in which maps list their entries. -/
def Before (a b : κ) : Prop := compare a b = .lt

instance (a b : κ) : Decidable (Before a b) := inferInstanceAs (Decidable (_ = _))

/-- Keys compare equal only if they are equal, so a comparison can stand in for a test of
equality. -/
theorem compare_eq_iff {a b : κ} : compare a b = .eq ↔ a = b :=
  Std.LawfulEqCmp.compare_eq_iff_eq

/-- A key compares equal to itself. -/
theorem compare_self (a : κ) : compare a a = .eq := compare_eq_iff.2 rfl

/-- One key compares greater than another just when the other comes before it. -/
theorem compare_eq_gt_iff {a b : κ} : compare a b = .gt ↔ Before b a :=
  Std.OrientedCmp.gt_iff_lt

/-- No key comes before itself. -/
theorem before_irrefl (a : κ) : ¬ Before a a := by
  simp [Before, compare_self]

/-- What comes before a key also comes before all that this key comes before. -/
theorem Before.trans {a b c : κ} (h₁ : Before a b) (h₂ : Before b c) : Before a c :=
  Std.TransCmp.lt_trans h₁ h₂

/-- A key is not the one that it comes before. -/
theorem Before.ne {a b : κ} (h : Before a b) : a ≠ b :=
  fun e => before_irrefl b (e ▸ h)

/-- Two keys do not come before each other. -/
theorem Before.asymm {a b : κ} (h₁ : Before a b) (h₂ : Before b a) : False :=
  before_irrefl a (h₁.trans h₂)

/-- The order that an injection into an ordered type carries back: keys are compared by their
images. -/
@[reducible] def ofInjective {α : Type v} (f : α → κ) (inj : ∀ a b, f a = f b → a = b) :
    KeyOrder α where
  compare a b := compare (f a) (f b)
  trans :=
    { eq_swap := Std.OrientedCmp.eq_swap
      isLE_trans := Std.TransCmp.isLE_trans }
  lawfulEq :=
    { compare_self := compare_self _
      eq_of_compare := fun h => inj _ _ (compare_eq_iff.1 h) }

end KeyOrder

/-! ### Orders of strings and pairs -/

/-- The bytes of the UTF-8 encoding of a text. -/
def utf8Bytes (s : String) : List UInt8 := s.toByteArray.data.toList

/-- A text is determined by its bytes, so texts that compare equal are equal. -/
theorem utf8Bytes_injective {s t : String} (h : utf8Bytes s = utf8Bytes t) : s = t := by
  apply String.toByteArray_inj.1
  apply ByteArray.ext
  exact Array.toList_inj.1 h

/-- Lists of bytes are ordered lexicographically. -/
instance : KeyOrder (List UInt8) where
  compare := List.compareLex Ord.compare
  trans := inferInstance
  lawfulEq := inferInstance

/-- Texts are ordered by the bytes of their UTF-8 encoding. -/
instance : KeyOrder String :=
  KeyOrder.ofInjective utf8Bytes fun _ _ => utf8Bytes_injective

/-- Pairs are ordered by the first component, then by the second. -/
instance {α : Type u} {β : Type v} [KeyOrder α] [KeyOrder β] : KeyOrder (α × β) where
  compare := compareLex (fun a b => KeyOrder.compare a.1 b.1) fun a b =>
    KeyOrder.compare a.2 b.2
  trans :=
    haveI : Std.TransCmp (fun a b : α × β => KeyOrder.compare a.1 b.1) :=
      { eq_swap := Std.OrientedCmp.eq_swap, isLE_trans := Std.TransCmp.isLE_trans }
    haveI : Std.TransCmp (fun a b : α × β => KeyOrder.compare a.2 b.2) :=
      { eq_swap := Std.OrientedCmp.eq_swap, isLE_trans := Std.TransCmp.isLE_trans }
    inferInstance
  lawfulEq :=
    { compare_self := by simp [compareLex, KeyOrder.compare_self]
      eq_of_compare := fun {a b} h => by
        simp only [compareLex_eq_eq, KeyOrder.compare_eq_iff] at h
        exact Prod.ext h.1 h.2 }

end WorkspaceAccess
