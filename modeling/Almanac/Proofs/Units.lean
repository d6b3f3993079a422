import Almanac.TimeUnit
import Mathlib.Order.Bounds.Basic

set_option relaxedAutoImplicit false
set_option autoImplicit false

/-!
# What units stand for

Units are counted on the wall clock or in elapsed time, and a whole number of a unit stands for
exactly as many months, days or milliseconds as it has.

## Main definitions

* `Almanac.Span.OnWall` — the quantities that are counted on the wall clock.
* `Almanac.Span.count`, `Almanac.Span.withCount` — the number in a quantity, and the quantity with
  another one.

## Main results

* `Almanac.TimeUnit.spanOf?_eq` — what a magnitude of a unit stands for.
* `Almanac.TimeUnit.spanOf?_whole` — what a whole number of a unit stands for.
-/

namespace Almanac

/-! ## The two ways of counting -/

/-- The quantities that are counted on the wall clock. -/
def Span.OnWall : Span → Prop
  | months _ | days _ => True
  | fixed _ => False

instance : DecidablePred Span.OnWall
  | .months _ | .days _ => isTrue trivial
  | .fixed _ => isFalse not_false

/-- What is not counted on the wall clock is elapsed time. -/
lemma Span.onWall_or_fixed (s : Span) : s.OnWall ∨ ∃ millis, s = .fixed millis := by
  cases s with
  | months n => exact Or.inl trivial
  | days n => exact Or.inl trivial
  | fixed n => exact Or.inr ⟨n, rfl⟩

/-- How many of its months, days or milliseconds a quantity has. -/
def Span.count : Span → Int
  | months n | days n | fixed n => n

/-- A unit is of some length. -/
lemma TimeUnit.count_span_pos (u : TimeUnit) : 0 < u.span.count := by
  cases u <;> decide

/-- Of the units of elapsed time only the millisecond is shorter than a second. -/
lemma TimeUnit.span_eq_fixed {u : TimeUnit} {per : Int} (hspan : u.span = .fixed per) :
    (u = .milliseconds ∧ per = 1) ∨ (u ≠ .milliseconds ∧ 1000 ≤ per) := by
  cases u <;> simp_all [TimeUnit.span, TimeUnit.lengthMillis?] <;> omega

/-! ## Numbers of a unit -/

/-- A quantity of the same kind with another number. -/
def Span.withCount (n : Int) : Span → Span
  | months _ => .months n
  | days _ => .days n
  | fixed _ => .fixed n

/-- The number of a quantity with another number. -/
@[simp] lemma Span.count_withCount (s : Span) (n : Int) : (s.withCount n).count = n := by
  cases s <;> rfl

/-- Only the last number counts. -/
@[simp] lemma Span.withCount_withCount (s : Span) (m n : Int) :
    (s.withCount m).withCount n = s.withCount n := by
  cases s <;> rfl

/-- A quantity is counted as those of its kind are. -/
@[simp] lemma Span.onWall_withCount (s : Span) (n : Int) : (s.withCount n).OnWall ↔ s.OnWall := by
  cases s <;> rfl

/-- What a magnitude of a unit stands for is of the kind of the unit, and its number is the rounded
multiple. -/
theorem TimeUnit.spanOf?_eq (u : TimeUnit) (m : Magnitude) :
    u.spanOf? m = (m.roundedProduct? u.span.count).map fun k => u.span.withCount k := by
  rw [spanOf?]
  cases u.span <;> rfl

/-- A quantity of a unit is counted as the unit is. -/
lemma TimeUnit.onWall_of_spanOf? {u : TimeUnit} {m : Magnitude} {s : Span}
    (h : u.spanOf? m = some s) : s.OnWall ↔ u.span.OnWall := by
  rw [spanOf?_eq, Option.map_eq_some_iff] at h
  obtain ⟨k, -, rfl⟩ := h
  exact Span.onWall_withCount _ _

/-- A multiple of a whole number needs no rounding. -/
lemma Magnitude.roundedProduct?_whole {m : Magnitude} {n factor k : Int}
    (hm : m.billionths = n * scale) (h : m.roundedProduct? factor = some k) : k = n * factor := by
  have hproduct : m.billionths * factor = n * factor * (scale : Int) := by
    rw [hm, Int.mul_right_comm]
  have hscale : (scale : Int) ≠ 0 := by decide
  have hround : ¬ scale ≤ (0 : Int).natAbs * 2 := by decide
  simp only [roundedProduct?, hproduct, Int.mul_tdiv_cancel _ hscale, Int.mul_tmod_left,
    if_neg hround] at h
  split at h
  · split at h
    · exact (Option.some.inj h).symm
    · cases h
  · cases h

/-- A whole number of a unit stands for as many times what one stands for. -/
theorem TimeUnit.spanOf?_whole {u : TimeUnit} {m : Magnitude} {n : Int}
    (hm : m.billionths = n * Magnitude.scale) {s : Span} (h : u.spanOf? m = some s) :
    s = u.span.withCount (n * u.span.count) := by
  rw [spanOf?_eq, Option.map_eq_some_iff] at h
  obtain ⟨k, hk, rfl⟩ := h
  rw [Magnitude.roundedProduct?_whole hm hk]

end Almanac
