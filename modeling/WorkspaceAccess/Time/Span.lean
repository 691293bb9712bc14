/-!
# Lengths of Time

A `Span` is a number of seconds that fits in 64 bits and a number of nanoseconds below a second. Its
arithmetic saturates: a product that does not fit is the longest span. The two bounds are fields of
the structure, so there is no span that breaks them, and every span is determined by its length in
nanoseconds.

Multiplication works on the two parts separately, as it would in 64 bits, and not on the number of
nanoseconds, which may need more. That the parts lead to the same result as the number is what
`toNanos_scale` says; it is how the law of the backoff is reduced to arithmetic without bounds.

## Main results

* `Span.toNanos_injective`, `Span.toNanos_lt_limit`: spans are their nanoseconds, which lie below
  `Span.limit`.
* `Span.toNanos_ofNanos`: every number below the limit is the length of a span.
* `Span.le_iff_toNanos_le`, `Span.toNanos_min`: the order of spans is the order of their
  nanoseconds.
* `Span.toNanos_scale`: a multiple of a span is the multiple of its nanoseconds or the longest span,
  if that is shorter.
* `Span.nanos_mul_lt`: the nanoseconds of a span can be multiplied within 64 bits.
-/

namespace WorkspaceAccess

/-- A length of time, in seconds and nanoseconds. -/
structure Span where
  /-- The whole seconds of it. -/
  seconds : Nat
  /-- Nanoseconds beyond the whole seconds. -/
  nanos : Nat
  /-- The seconds fit in 64 bits. -/
  seconds_lt : seconds < 0x1_0000_0000_0000_0000
  /-- The nanoseconds are less than a second. -/
  nanos_lt : nanos < 1_000_000_000
  deriving DecidableEq

namespace Span

/-- The longest span, which stands for every length that does not fit. -/
def longest : Span := ⟨0xffff_ffff_ffff_ffff, 999_999_999, by decide, by decide⟩

/-- The span of a number of seconds, the longest one where they do not fit in 64 bits. -/
def ofSeconds (n : Nat) : Span :=
  if h : n < 0x1_0000_0000_0000_0000 then ⟨n, 0, h, by decide⟩ else longest

/-- The span without length. -/
def zero : Span := ⟨0, 0, by decide, by decide⟩

instance : Inhabited Span := ⟨zero⟩

/-- The first number of nanoseconds that no span has. -/
def limit : Nat := 0x1_0000_0000_0000_0000 * 1_000_000_000

/-- The length in nanoseconds, which may need more than 64 bits. -/
def toNanos (d : Span) : Nat := d.seconds * 1_000_000_000 + d.nanos

/-- The length in whole milliseconds. -/
def toMillis (d : Span) : Nat := d.toNanos / 1000000

/-- The span of a number of nanoseconds, the longest one where there is none. -/
def ofNanos (n : Nat) : Span :=
  if h : n / 1_000_000_000 < 0x1_0000_0000_0000_0000 then
    ⟨n / 1_000_000_000, n % 1_000_000_000, h, Nat.mod_lt _ (by decide)⟩
  else longest

/-- The span of a number of milliseconds. -/
def ofMillis (n : Nat) : Span := ofNanos (n * 1000000)

/-- Every span is shorter than the limit. -/
theorem toNanos_lt_limit (d : Span) : d.toNanos < limit := by
  have := d.seconds_lt; have := d.nanos_lt
  unfold toNanos limit; omega

/-- Spans of the same length are equal: there is one way to write a length. -/
theorem toNanos_injective {a b : Span} (h : a.toNanos = b.toNanos) : a = b := by
  obtain ⟨s, n, hs, hn⟩ := a
  obtain ⟨t, m, ht, hm⟩ := b
  simp only [toNanos] at h
  obtain rfl : s = t := by omega
  obtain rfl : n = m := by omega
  rfl

/-- Every number of nanoseconds below the limit is the length of its span. -/
theorem toNanos_ofNanos {n : Nat} (h : n < limit) : (ofNanos n).toNanos = n := by
  unfold limit at h
  have hs : n / 1_000_000_000 < 0x1_0000_0000_0000_0000 := by omega
  simp only [ofNanos, dif_pos hs, toNanos]
  omega

/-! ### Order -/

/-- One span is at most as long as another: compared by seconds, then by nanoseconds. -/
protected def le (a b : Span) : Bool :=
  a.seconds < b.seconds || (a.seconds == b.seconds && a.nanos ≤ b.nanos)

instance : LE Span := ⟨fun a b => a.le b = true⟩

instance (a b : Span) : Decidable (a ≤ b) := inferInstanceAs (Decidable (_ = true))

/-- One span is at most as long as another just when its nanoseconds are at most as many. -/
theorem le_iff_toNanos_le {a b : Span} : a ≤ b ↔ a.toNanos ≤ b.toNanos := by
  have := a.nanos_lt; have := b.nanos_lt
  show a.le b = true ↔ _
  simp only [Span.le, toNanos, Bool.or_eq_true, Bool.and_eq_true, decide_eq_true_eq, beq_iff_eq]
  omega

/-- Every span is at most as long as itself. -/
protected theorem le_refl (d : Span) : d ≤ d := le_iff_toNanos_le.mpr (Nat.le_refl _)

/-- The shorter of two spans. -/
protected def min (a b : Span) : Span := if a ≤ b then a else b

instance : Min Span := ⟨Span.min⟩

/-- The length of the shorter span is the smaller of the two lengths. -/
theorem toNanos_min (a b : Span) : (min a b).toNanos = min a.toNanos b.toNanos := by
  show (Span.min a b).toNanos = _
  unfold Span.min
  split <;> rename_i h <;> rw [le_iff_toNanos_le] at h <;> omega

/-! ### Multiplication -/

/-- The span `k` times as long, for a factor below 2³²: the seconds and the nanoseconds are
multiplied separately and the full seconds among the nanoseconds are carried over. A product
that does not fit is the longest span. -/
def scale (d : Span) (k : Nat) : Span :=
  let nanos := d.nanos * k
  let seconds := d.seconds * k + nanos / 1_000_000_000
  if h : seconds < 0x1_0000_0000_0000_0000 then
    ⟨seconds, nanos % 1_000_000_000, h, Nat.mod_lt _ (by decide)⟩
  else longest

/-- A multiple of a span is the multiple of its nanoseconds, or the longest span where that does not
fit. -/
theorem toNanos_scale (d : Span) (k : Nat) :
    (d.scale k).toNanos = min (d.toNanos * k) longest.toNanos := by
  have hproduct : d.toNanos * k = d.seconds * k * 1_000_000_000 + d.nanos * k := by
    rw [toNanos, Nat.add_mul, Nat.mul_right_comm]
  have hlongest : longest.toNanos = limit - 1 := by decide
  rw [hproduct, hlongest, limit]
  unfold scale toNanos
  dsimp only
  split
  · dsimp only
    omega
  · simp only [longest]
    omega

/-- The nanoseconds are multiplied within 64 bits, by any factor below 2³². -/
theorem nanos_mul_lt (d : Span) {k : Nat} (h : k < 0x1_0000_0000) :
    d.nanos * k < 0x1_0000_0000_0000_0000 := by
  have hproduct : d.nanos * k ≤ 1_000_000_000 * 0x1_0000_0000 :=
    Nat.mul_le_mul (Nat.le_of_lt d.nanos_lt) (Nat.le_of_lt h)
  omega

end Span

end WorkspaceAccess
