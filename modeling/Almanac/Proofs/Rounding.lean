import Almanac.Duration
import Almanac.Proofs.Units
import Mathlib.Order.Bounds.Basic

set_option relaxedAutoImplicit false
set_option autoImplicit false

/-!
# Rounding

Billionths are rounded to the nearest whole number, and of two that are equally near to the one
farther from zero. The rounded multiple of a magnitude is this number whenever it has 64 bits: a
product that has more than 128 bits is far from any such number.

## Main definitions

* `Almanac.roundBillionths` — the whole number that billionths are rounded to.
* `Almanac.RoundsTo` — what it is to be rounded.
* `Almanac.Duration.count` — how many months, days or milliseconds a duration counts.

## Main results

* `Almanac.roundsTo_iff` — there is one number to round to.
* `Almanac.Magnitude.roundedProduct?_eq` — the rounded multiple of a magnitude.
* `Almanac.Duration.spanOf?_eq` — what a duration stands for.
-/

namespace Almanac

/-- Billionths, rounded to the nearest whole number, halves away from zero. -/
def roundBillionths (n : Int) : Int :=
  n.sign * ((2 * n.natAbs + 1000000000) / 2000000000 : Nat)

/-- Billionths are rounded to a whole number: they are at most half of one away from it, and if it
is exactly a half then the whole number is farther from zero. -/
structure RoundsTo (n k : Int) : Prop where
  near : 2 * (n - k * 1000000000).natAbs ≤ 1000000000
  away : 2 * (n - k * 1000000000).natAbs = 1000000000 → n.natAbs ≤ k.natAbs * 1000000000

/-- There is one number to round to. -/
theorem roundsTo_iff {n k : Int} : RoundsTo n k ↔ k = roundBillionths n := by
  unfold roundBillionths
  rcases lt_trichotomy n 0 with hneg | rfl | hpos
  · rw [Int.sign_eq_neg_one_of_neg hneg]
    constructor
    · rintro ⟨hnear, haway⟩
      omega
    · rintro rfl
      constructor <;> omega
  · rw [Int.sign_zero, Int.zero_mul]
    constructor
    · rintro ⟨hnear, haway⟩
      omega
    · rintro rfl
      constructor <;> decide
  · rw [Int.sign_eq_one_of_pos hpos]
    constructor
    · rintro ⟨hnear, haway⟩
      omega
    · rintro rfl
      constructor <;> omega

/-- Rounding does not see the sign. -/
lemma roundBillionths_neg (n : Int) : roundBillionths (-n) = -roundBillionths n := by
  rw [roundBillionths, roundBillionths, Int.sign_neg, Int.natAbs_neg, Int.neg_mul]

/-- Cutting off the fraction and going one farther for half of one or more is rounding. -/
lemma roundsTo_tdiv (n : Int) :
    RoundsTo n (if Magnitude.scale ≤ (n.tmod Magnitude.scale).natAbs * 2
      then n.tdiv Magnitude.scale + n.sign else n.tdiv Magnitude.scale) := by
  have hscale : (Magnitude.scale : Int) = 1000000000 := rfl
  have hparts := Int.mul_tdiv_add_tmod n 1000000000
  rw [hscale, Magnitude.scale]
  rcases lt_trichotomy n 0 with hneg | rfl | hpos
  · -- cutting off goes towards zero, so the fraction has the sign of the number
    have hmod := Int.tmod_nonneg 1000000000 (show 0 ≤ -n by omega)
    rw [Int.neg_tmod] at hmod
    have hlt := Int.lt_tmod_of_pos n (show (0 : Int) < 1000000000 by decide)
    rw [Int.sign_eq_neg_one_of_neg hneg]
    split <;> constructor <;> omega
  · constructor <;> decide
  · have hmod := Int.tmod_nonneg 1000000000 hpos.le
    have hlt := Int.tmod_lt_of_pos n (show (0 : Int) < 1000000000 by decide)
    rw [Int.sign_eq_one_of_pos hpos]
    split <;> constructor <;> omega

/-- The rounded multiple of a magnitude is the rounded product, if that has 64 bits. -/
theorem Magnitude.roundedProduct?_eq (m : Magnitude) (factor : Int) :
    m.roundedProduct? factor =
      if Fits64 (roundBillionths (m.billionths * factor)) then
        some (roundBillionths (m.billionths * factor))
      else none := by
  have hround := roundsTo_iff.mp (roundsTo_tdiv (m.billionths * factor))
  simp only [roundedProduct?, hround]
  split
  · rfl
  · next hproduct =>
    -- a product that is cut off is rounded to a number of more than 64 bits
    have hnear := (roundsTo_iff.mpr (rfl : roundBillionths (m.billionths * factor) = _)).near
    rw [if_neg]
    intro hfits
    simp only [Fits64] at hfits
    simp only [Fits128] at hproduct
    omega

/-! ## Durations -/

/-- The whole number of months, days or milliseconds that a duration stands for: its decimal times
what one of its unit stands for, rounded to the nearest whole number, halves away from zero. -/
def Duration.count (d : Duration) : Int :=
  roundBillionths (d.magnitude.billionths * d.unit.span.count)

/-- A duration stands for the number that it counts of what its unit stands for, if that number has
64 bits. -/
theorem Duration.spanOf?_eq (d : Duration) : d.unit.spanOf? d.magnitude =
    if Fits64 d.count then some (d.unit.span.withCount d.count) else none := by
  rw [TimeUnit.spanOf?_eq, Magnitude.roundedProduct?_eq, ← count]
  split
  · rfl
  · rfl

end Almanac
