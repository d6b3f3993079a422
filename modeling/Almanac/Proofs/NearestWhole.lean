import Almanac.Proofs.Rounding
import Mathlib.Algebra.Order.Field.Basic
import Mathlib.Algebra.Order.Field.Rat
import Mathlib.Algebra.Order.Ring.Cast
import Mathlib.Tactic.FieldSimp

set_option relaxedAutoImplicit false
set_option autoImplicit false

/-!
# Nearest whole numbers

A magnitude is a rational number, and its rounded multiple is the whole number that is nearest to
the exact multiple: no other one is nearer, and of two that are equally near it is the one farther
from zero. There is always one such number, and the rounded multiple is missing only if that number
has more than 64 bits, also where the multiple itself has more than 128. So nothing is lost when a
magnitude is counted in months, days or milliseconds instead of a larger unit.

## Main definitions

* `Almanac.IsNearest` — the whole number that is nearest to a rational number.
* `Almanac.Magnitude.value` — the number that a magnitude is.
* `Almanac.TimeUnit.consistsOf` — what a unit consists of.

## Main results

* `Almanac.isNearest_iff` — the nearest whole number to billionths.
* `Almanac.Magnitude.roundedProduct?_isNearest` — the rounded multiple of a magnitude.
-/

namespace Almanac

/-- A whole number is the nearest to a rational number, and of two that are equally near the one
farther from zero. -/
structure IsNearest (q : ℚ) (k : Int) : Prop where
  nearest : ∀ other : Int, |q - k| ≤ |q - other|
  away : ∀ other : Int, |q - other| = |q - k| → other.natAbs ≤ k.natAbs

/-- The number that a magnitude is. -/
def Magnitude.value (m : Magnitude) : ℚ :=
  m.billionths / 1000000000

/-- How many of which unit a unit consists of: a year of months, a week of days, and a unit of fixed
length of milliseconds. -/
def TimeUnit.consistsOf : TimeUnit → Int × TimeUnit
  | years => (12, months)
  | months => (1, months)
  | weeks => (7, days)
  | days => (1, days)
  | hours => (3600000, milliseconds)
  | minutes => (60000, milliseconds)
  | seconds => (1000, milliseconds)
  | milliseconds => (1, milliseconds)

/-! ## Billionths -/

/-- How far billionths are from a whole number. -/
lemma abs_billionths_sub (n k : Int) :
    |(n : ℚ) / 1000000000 - k| = ((n - k * 1000000000).natAbs : ℚ) / 1000000000 := by
  have hparts : (n : ℚ) / 1000000000 - k = ((n - k * 1000000000 : Int) : ℚ) / 1000000000 := by
    push_cast
    field_simp
  rw [hparts, abs_div, abs_of_pos (show (0 : ℚ) < 1000000000 by norm_num), Nat.cast_natAbs,
    Int.cast_abs]

/-- The nearest whole number to billionths is the one that they are rounded to.

**Proof sketch.** Distances are compared as whole numbers of billionths. The number that billionths
are rounded to is at most half of one away, so that all others are at least as far; and a number
that is nearest is not farther than its two neighbours, so that it is at most half of one away. -/
theorem isNearest_iff {n k : Int} :
    IsNearest (n / 1000000000) k ↔ k = roundBillionths n := by
  have hle : ∀ j : Int, |(n : ℚ) / 1000000000 - k| ≤ |(n : ℚ) / 1000000000 - j| ↔
      (n - k * 1000000000).natAbs ≤ (n - j * 1000000000).natAbs := by
    intro j
    rw [abs_billionths_sub, abs_billionths_sub, div_le_div_iff_of_pos_right (by norm_num),
      Nat.cast_le]
  have heq : ∀ j : Int, |(n : ℚ) / 1000000000 - j| = |(n : ℚ) / 1000000000 - k| ↔
      (n - j * 1000000000).natAbs = (n - k * 1000000000).natAbs := by
    intro j
    rw [abs_billionths_sub, abs_billionths_sub, div_left_inj' (by norm_num), Nat.cast_inj]
  rw [← roundsTo_iff]
  constructor
  · rintro ⟨hnearest, haway⟩
    simp only [hle, heq] at hnearest haway
    have hbefore := hnearest (k - 1)
    have hafter := hnearest (k + 1)
    refine ⟨by omega, fun hhalf => ?_⟩
    rcases Int.le_total (k * 1000000000) n with hfar | hfar
    · have := haway (k + 1)
      omega
    · have := haway (k - 1)
      omega
  · rintro ⟨hnear, haway⟩
    refine ⟨fun j => (hle j).mpr ?_, fun j hj => ?_⟩
    · rcases lt_trichotomy j k with hj | rfl | hj
      · omega
      · exact le_rfl
      · omega
    · rw [heq] at hj
      rcases lt_trichotomy j k with hlt | rfl | hlt
      · omega
      · exact le_rfl
      · omega

/-! ## Multiples -/

/-- The nearest whole number to a multiple of a magnitude is the one that the billionths of the
multiple are rounded to. -/
lemma Magnitude.isNearest_value_mul_iff {m : Magnitude} {factor k : Int} :
    IsNearest (m.value * factor) k ↔ k = roundBillionths (m.billionths * factor) := by
  have hvalue : m.value * factor = ((m.billionths * factor : Int) : ℚ) / 1000000000 := by
    rw [value, Int.cast_mul, div_mul_eq_mul_div]
  rw [hvalue, isNearest_iff]

/-- What a unit consists of stands for as many months, days or milliseconds as the unit. -/
lemma TimeUnit.span_consistsOf (u : TimeUnit) :
    u.span = u.consistsOf.2.span.withCount (u.consistsOf.1 * u.consistsOf.2.span.count) := by
  cases u <;> rfl

/-- A magnitude of a unit stands for the same as so many times the magnitude of what the unit
consists of. -/
theorem TimeUnit.spanOf?_consistsOf {u : TimeUnit} {m multiple : Magnitude}
    (h : multiple.billionths = u.consistsOf.1 * m.billionths) :
    u.spanOf? m = u.consistsOf.2.spanOf? multiple := by
  have hproduct : m.billionths * u.span.count =
      multiple.billionths * u.consistsOf.2.span.count := by
    rw [h, u.span_consistsOf, Span.count_withCount, Int.mul_left_comm, Int.mul_assoc]
  rw [spanOf?_eq, spanOf?_eq, Magnitude.roundedProduct?_eq, Magnitude.roundedProduct?_eq, hproduct,
    u.span_consistsOf]
  simp only [Span.withCount_withCount]

/-- The rounded multiple of a magnitude is the whole number that is nearest to the multiple, if it
has 64 bits; there is one such number, and if it has more bits there is no rounded multiple. So a
unit stands for the same as what it consists of, if so many of that can be counted. -/
theorem Magnitude.roundedProduct?_isNearest (m : Magnitude) (factor : Int) :
    (∃! k, IsNearest (m.value * factor) k) ∧
      (∀ k, m.roundedProduct? factor = some k ↔ IsNearest (m.value * factor) k ∧ Fits64 k) ∧
      (m.roundedProduct? factor = none ↔ ∀ k, IsNearest (m.value * factor) k → ¬ Fits64 k) ∧
      ∀ (u : TimeUnit) (multiple : Magnitude),
        multiple.billionths = u.consistsOf.1 * m.billionths →
          u.spanOf? m = u.consistsOf.2.spanOf? multiple := by
  simp only [isNearest_value_mul_iff, roundedProduct?_eq]
  refine ⟨existsUnique_eq, fun k => ?_, ?_, fun u multiple => TimeUnit.spanOf?_consistsOf⟩
  · rw [Option.ite_none_right_eq_some, Option.some.injEq]
    constructor
    · rintro ⟨hfits, rfl⟩
      exact ⟨rfl, hfits⟩
    · rintro ⟨rfl, hfits⟩
      exact ⟨hfits, rfl⟩
  · rw [forall_eq]
    simp

/-- A year and a half is eighteen months, minus a half is rounded to minus one, and the greatest
magnitude has no rounded multiple by twelve, which would have more than 128 bits. -/
theorem Magnitude.roundedProduct?_isNearest_years :
    (18000000000 : Int) = TimeUnit.years.consistsOf.1 * 1500000000 ∧
      TimeUnit.years.spanOf? ⟨1500000000, by decide⟩ = some (.months 18) ∧
      TimeUnit.months.spanOf? ⟨18000000000, by decide⟩ = some (.months 18) ∧
      IsNearest (value ⟨-500000000, by decide⟩ * (1 : Int)) (-1) ∧
      ¬ Fits128 (170141183460469231731687303715884105727 * 12) ∧
      ∀ k, IsNearest (value ⟨170141183460469231731687303715884105727, by decide⟩ * (12 : Int)) k →
        ¬ Fits64 k := by
  have hyears := (roundedProduct?_isNearest ⟨1500000000, by decide⟩ 12).2.2.2 .years
    ⟨18000000000, by decide⟩ (by decide)
  have hhalf := ((roundedProduct?_isNearest ⟨-500000000, by decide⟩ 1).2.1 (-1)).mp (by decide)
  have hgreatest := (roundedProduct?_isNearest
    ⟨170141183460469231731687303715884105727, by decide⟩ 12).2.2.1.mp (by decide)
  exact ⟨by decide, by decide, hyears.symm.trans (by decide), hhalf.1, by decide, hgreatest⟩

end Almanac
