import Mathlib.Algebra.GroupWithZero.Nat
import WorkspaceAccess.Backoff

/-!
# The Exact Length of a Delay

A delay is doubled in seconds and nanoseconds separately, in 64 and 32 bits, and what does not fit
is the longest span. The doubling is done at once, by a power of two, and it stops after 16 steps so
that the power fits in 32 bits. None of this can be told from doubling without any bounds, since no
delay is longer than the maximum, which is a span itself: a product that does not fit is beyond
every maximum (`toNanos_delay`). So all that is said about delays is said about natural numbers of
nanoseconds.

That the doubling stops makes a difference for a policy whose maximum is more than 2¹⁶ times the
first delay, and none where the maximum is reached by then (`toNanos_delay_of_reached`); the
standard policy, which goes from five seconds to five minutes, is of the latter kind.

## Main results

* `doublings_eq`: the first failure doubles nothing, and neither does no failure at all.
* `two_pow_doublings_lt`: the factor fits in 32 bits.
* `toNanos_delay`: in nanoseconds a delay is what doubling gives without bounds, or the maximum.
* `toNanos_delay_of_reached`: where the maximum is reached in 16 doublings, the delay doubles with
  every failure after the first until it is the maximum.
* `delay_le_max`, `delay_le_delay`: delays are bounded, and monotone in the failures, the first
  delay and the maximum.
* `delays_are_exact`: all of it, for every policy and any number of failures.
* `patient_is_exact`: a first delay that is too long to be doubled.
-/

namespace WorkspaceAccess.Backoff

variable (b : Backoff)

/-- The first failure doubles nothing, and neither does no failure at all. -/
theorem doublings_eq (failures : Nat) : doublings failures = min (Max.max failures 1 - 1) 16 := by
  unfold doublings maxDoublings
  omega

/-- The factor fits in 32 bits, however many failures there were. -/
theorem two_pow_doublings_lt (failures : Nat) : 2 ^ doublings failures < 0x1_0000_0000 := by
  have hle : 2 ^ doublings failures ≤ 2 ^ maxDoublings :=
    Nat.pow_le_pow_right (by decide) (Nat.min_le_right _ _)
  exact Nat.lt_of_le_of_lt hle (by decide)

/-- The delay is what doubling gives without bounds, or the maximum: a product that does not fit
is beyond every maximum. -/
theorem toNanos_delay (failures : Nat) :
    (b.delay failures).toNanos = min (b.base.toNanos * 2 ^ doublings failures) b.max.toNanos := by
  have hmax : b.max.toNanos ≤ Span.longest.toNanos :=
    Nat.le_sub_one_of_lt b.max.toNanos_lt_limit
  rw [delay, Span.toNanos_min, Span.toNanos_scale, Nat.min_assoc, Nat.min_eq_right hmax]
  rfl

/-- Where the maximum is reached in 16 doublings, that they end there makes no difference. -/
theorem toNanos_delay_of_reached (h : b.max.toNanos ≤ b.base.toNanos * 2 ^ maxDoublings)
    (more : Nat) :
    (b.delay (more + 1)).toNanos = min (b.base.toNanos * 2 ^ more) b.max.toNanos := by
  rw [toNanos_delay, doublings, Nat.add_sub_cancel]
  rcases Nat.le_total more maxDoublings with hfew | hmany
  · rw [Nat.min_eq_left hfew]
  · have hgrows : b.base.toNanos * 2 ^ maxDoublings ≤ b.base.toNanos * 2 ^ more :=
      Nat.mul_le_mul_left _ (Nat.pow_le_pow_right (by decide) hmany)
    rw [Nat.min_eq_right hmany, Nat.min_eq_right h, Nat.min_eq_right (Nat.le_trans h hgrows)]

/-- No delay is longer than the maximum, however many failures there were. -/
theorem delay_le_max (failures : Nat) : b.delay failures ≤ b.max := by
  rw [Span.le_iff_toNanos_le, toNanos_delay]
  exact Nat.min_le_right _ _

/-- More failures, a longer first delay and a higher maximum do not shorten the delay. -/
theorem delay_le_delay {b c : Backoff} {failures more : Nat} (hbase : b.base ≤ c.base)
    (hmax : b.max ≤ c.max) (hfailures : failures ≤ more) : b.delay failures ≤ c.delay more := by
  rw [Span.le_iff_toNanos_le] at hbase hmax ⊢
  have hdoublings : doublings failures ≤ doublings more := by
    unfold doublings
    omega
  have hproduct : b.base.toNanos * 2 ^ doublings failures ≤ c.base.toNanos * 2 ^ doublings more :=
    Nat.mul_le_mul hbase (Nat.pow_le_pow_right (by decide) hdoublings)
  rw [toNanos_delay, toNanos_delay]
  exact Nat.le_min.mpr ⟨Nat.le_trans (Nat.min_le_left _ _) hproduct,
    Nat.le_trans (Nat.min_le_right _ _) hmax⟩

/-- Delays are exact and within their bounds. In nanoseconds a delay is the first one, doubled with
every failure after the first but at most 16 times, or the maximum if that is less; the factor fits
in 32 bits and the nanoseconds are multiplied within 64. No delay is longer than the maximum; it
does not shrink with more failures, a longer first delay or a higher maximum; and where 16 doublings
reach the maximum, the delay doubles with every failure after the first until it is the maximum. -/
theorem delays_are_exact :
    (∀ failures, (b.delay failures).toNanos =
      min (b.base.toNanos * 2 ^ min (Max.max failures 1 - 1) 16) b.max.toNanos) ∧
    (∀ failures, 2 ^ doublings failures < 0x1_0000_0000 ∧
      b.base.nanos * 2 ^ doublings failures < 0x1_0000_0000_0000_0000) ∧
    (∀ failures, b.delay failures ≤ b.max) ∧
    (∀ failures more, failures ≤ more → b.delay failures ≤ b.delay more) ∧
    (∀ c : Backoff, b.base ≤ c.base → b.max ≤ c.max →
      ∀ failures, b.delay failures ≤ c.delay failures) ∧
    (b.max.toNanos ≤ b.base.toNanos * 2 ^ 16 → ∀ more,
      (b.delay (more + 1)).toNanos = min (b.base.toNanos * 2 ^ more) b.max.toNanos) := by
  refine ⟨fun failures => ?_, fun failures => ?_, b.delay_le_max, fun _ _ hmore => ?_,
    fun c hbase hmax _ => ?_, b.toNanos_delay_of_reached⟩
  · rw [toNanos_delay, doublings_eq]
  · have hfactor := two_pow_doublings_lt failures
    exact ⟨hfactor, b.base.nanos_mul_lt hfactor⟩
  · exact delay_le_delay (Span.le_refl _) (Span.le_refl _) hmore
  · exact delay_le_delay hbase hmax (Nat.le_refl _)

/-- A first delay that is too long to be doubled. -/
def patient : Backoff := ⟨Span.ofSeconds 0x8000_0000_0000_0000, Span.longest⟩

/-- Doubled, the patient delay is the longest span; it is no shorter than the standard one, which
does not shrink with more failures. -/
theorem patient_is_exact :
    (3 ≤ 0xffff_ffff ∧ standard.delay 3 ≤ standard.delay 0xffff_ffff) ∧
    (standard.base ≤ patient.base ∧ standard.max ≤ patient.max ∧
      standard.delay 7 ≤ patient.delay 7) ∧
    (patient.max.toNanos ≤ patient.base.toNanos * 2 ^ 16 ∧
      (patient.delay 2).toNanos = min (patient.base.toNanos * 2 ^ 1) patient.max.toNanos) ∧
    patient.delay 2 = Span.longest := by
  obtain ⟨-, -, -, hmore, hlonger, -⟩ := delays_are_exact standard
  obtain ⟨-, -, -, -, -, hreached⟩ := delays_are_exact patient
  exact ⟨⟨by decide, hmore _ _ (by decide)⟩,
    ⟨by decide, by decide, hlonger patient (by decide) (by decide) 7⟩,
    ⟨by decide, hreached (by decide) 1⟩, by decide⟩

end WorkspaceAccess.Backoff
