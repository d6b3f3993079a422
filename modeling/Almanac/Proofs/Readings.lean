import Almanac.Difference
import Mathlib.Order.Bounds.Basic

set_option relaxedAutoImplicit false
set_option autoImplicit false

/-!
# The order of readings

On different days readings are in the order of their days. Outside leap seconds a reading is a
count of nanoseconds, which the order, the moves and the subtraction of readings all agree with.
Leap seconds have no count of their own, and there the agreement ends: subtraction goes by the
times of day, so that from the leap second at the end of a day into the first second of the next
day it can come out below zero.

## Main definitions

* `Almanac.Reading.RunsBack` — readings in order whose subtraction comes out below zero.

## Main results

* `Almanac.Reading.check_onDay_le_iff` — a move to a later day that does not pass a reading of the
  calendar stays in the calendar.
* `Almanac.Reading.le_iff_total_le`, `Almanac.Reading.total_onDay`,
  `Almanac.Reading.total_elapse` — order and moves by count.
* `Almanac.Reading.nanosSince_le_neg_iff` — when the subtraction of readings in order comes out
  below zero, and by how much.
-/

namespace Almanac

/-- What two divisions after each other leave of a span of time that is not negative: each cuts
off what is not whole. -/
lemma le_tdiv_tdiv_iff {a b c k : Int} (ha : 0 ≤ a) (hb : 0 < b) (hc : 0 < c) :
    k ≤ (a.tdiv b).tdiv c ↔ k * c * b ≤ a := by
  have hab : 0 ≤ a / b := Int.ediv_nonneg ha (Int.le_of_lt hb)
  rw [Int.tdiv_eq_ediv_of_nonneg ha, Int.tdiv_eq_ediv_of_nonneg hab,
    Int.le_ediv_iff_mul_le hc, Int.le_ediv_iff_mul_le hb]

/-- Two divisions of a span of time after each other do not come out below zero. -/
lemma tdiv_tdiv_nonneg {a b c : Int} (ha : 0 ≤ a) (hb : 0 < b) (hc : 0 < c) :
    0 ≤ (a.tdiv b).tdiv c :=
  Int.tdiv_nonneg (Int.tdiv_nonneg ha (Int.le_of_lt hb)) (Int.le_of_lt hc)

/-- Two divisions after each other come out below zero when the whole of a unit is below zero. -/
lemma tdiv_tdiv_neg_iff {a b c : Int} (hb : 0 < b) (hc : 0 < c) :
    (a.tdiv b).tdiv c < 0 ↔ a ≤ -(c * b) := by
  rcases Int.le_total 0 a with ha | ha
  · have hnonneg := tdiv_tdiv_nonneg ha hb hc
    have hpos := Int.mul_pos hc hb
    omega
  · -- cutting off does not see the sign
    have hflip : 1 ≤ ((-a).tdiv b).tdiv c ↔ 1 * c * b ≤ -a :=
      le_tdiv_tdiv_iff (by omega) hb hc
    rw [Int.neg_tdiv, Int.neg_tdiv, Int.one_mul] at hflip
    omega

namespace Reading

/-! ## Order -/

/-- Readings are in one order or the other. -/
lemma le_total (a b : Reading) : a ≤ b ∨ b ≤ a := by
  have hab : a ≤ b ↔ a.secs < b.secs ∨ (a.secs = b.secs ∧ a.nanos ≤ b.nanos) := Iff.rfl
  have hba : b ≤ a ↔ b.secs < a.secs ∨ (b.secs = a.secs ∧ b.nanos ≤ a.nanos) := Iff.rfl
  rw [hab, hba]
  omega

/-- A reading that is not after another is not after those that the other is not after. -/
lemma le_trans {a b c : Reading} (hab : a ≤ b) (hbc : b ≤ c) : a ≤ c := by
  have hab : a.secs < b.secs ∨ (a.secs = b.secs ∧ a.nanos ≤ b.nanos) := hab
  have hbc : b.secs < c.secs ∨ (b.secs = c.secs ∧ b.nanos ≤ c.nanos) := hbc
  have hdef : a ≤ c ↔ a.secs < c.secs ∨ (a.secs = c.secs ∧ a.nanos ≤ c.nanos) := Iff.rfl
  rw [hdef]
  omega

/-- Readings in both orders are the same. -/
lemma le_antisymm {a b : Reading} (hab : a ≤ b) (hba : b ≤ a) : a = b := by
  have hab : a.secs < b.secs ∨ (a.secs = b.secs ∧ a.nanos ≤ b.nanos) := hab
  have hba : b.secs < a.secs ∨ (b.secs = a.secs ∧ b.nanos ≤ a.nanos) := hba
  have hsecs : a.secs = b.secs := by omega
  have hnanos : a.nanos = b.nanos := by omega
  cases a
  cases b
  simp_all

/-- Of two readings the first is the earlier one if the second is not. -/
lemma lt_iff_not_le {a b : Reading} : a < b ↔ ¬ b ≤ a := by
  have hlt : a < b ↔ a.secs < b.secs ∨ (a.secs = b.secs ∧ a.nanos < b.nanos) := Iff.rfl
  have hle : b ≤ a ↔ b.secs < a.secs ∨ (b.secs = a.secs ∧ b.nanos ≤ a.nanos) := Iff.rfl
  rw [hlt, hle]
  constructor
  · intro h
    omega
  · intro h
    omega

/-- An earlier reading is not after the later one. -/
lemma le_of_lt {a b : Reading} (h : a < b) : a ≤ b :=
  (le_total a b).resolve_right (lt_iff_not_le.mp h)

/-! ## Days -/

/-- The same time of day on a day is on that day. -/
@[simp] lemma day_onDay (r : Reading) (day : Int) : (r.onDay day).day = day := by
  simp only [onDay, Reading.day]
  omega

/-- A reading moved to a day is in the calendar if the day is. -/
@[simp] lemma inRange_onDay (r : Reading) (day : Int) : (r.onDay day).InRange ↔ InCalendar day := by
  simp [InRange]

/-- A reading is on its own day. -/
@[simp] lemma onDay_day (r : Reading) : r.onDay r.day = r := by
  obtain ⟨secs, nanos, h⟩ := r
  simp only [onDay, Reading.day, mk.injEq, and_true]
  omega

/-- A reading that is moved twice is on the second day. -/
@[simp] lemma onDay_onDay (r : Reading) (a b : Int) : (r.onDay a).onDay b = r.onDay b := by
  simp only [onDay, mk.injEq, and_true]
  omega

/-- On an earlier day it is earlier. -/
lemma onDay_le_of_lt (r : Reading) {s : Reading} {day : Int} (h : day < s.day) :
    r.onDay day ≤ s := by
  refine Or.inl ?_
  simp only [onDay, Reading.day] at h ⊢
  omega

/-- On a later day it is later. -/
lemma not_onDay_le_of_lt (r : Reading) {s : Reading} {day : Int} (h : s.day < day) :
    ¬ r.onDay day ≤ s := by
  rintro (hlt | ⟨heq, -⟩)
  · simp only [onDay, Reading.day] at h hlt
    omega
  · simp only [onDay, Reading.day] at h heq
    omega

/-- A check passes a reading of the calendar on. -/
lemma check_eq_some_iff {r s : Reading} : r.check = some s ↔ r.InRange ∧ r = s := by
  rw [check]
  split
  · next h => simp [h]
  · next h => simp [h]

/-- A move to a later day that does not pass a reading of the calendar stays in the calendar, so
that only the order counts. -/
lemma check_onDay_le_iff {earlier later : Reading} (he : earlier.InRange) (hl : later.InRange)
    {day : Int} (hday : earlier.day ≤ day) :
    (∃ r, (earlier.onDay day).check = some r ∧ r ≤ later) ↔ earlier.onDay day ≤ later := by
  constructor
  · rintro ⟨r, hr, hle⟩
    obtain ⟨-, rfl⟩ := check_eq_some_iff.mp hr
    exact hle
  · intro hle
    refine ⟨_, check_eq_some_iff.mpr ⟨?_, rfl⟩, hle⟩
    have hend : day ≤ later.day := by
      by_contra hlt
      exact not_onDay_le_of_lt _ (by omega) hle
    rw [inRange_onDay]
    simp only [InRange, InCalendar] at he hl ⊢
    omega

/-! ## Counts of nanoseconds -/

/-- Outside leap seconds readings are in the order of their counts. -/
lemma le_iff_total_le {a b : Reading} (ha : ¬ a.IsLeap) (hb : ¬ b.IsLeap) :
    a ≤ b ↔ a.total ≤ b.total := by
  have hdef : a ≤ b ↔ a.secs < b.secs ∨ (a.secs = b.secs ∧ a.nanos ≤ b.nanos) := Iff.rfl
  rw [hdef]
  simp only [IsLeap, total] at *
  omega

/-- A move to another day adds whole days to the count. -/
lemma total_onDay (r : Reading) (day : Int) :
    (r.onDay day).total = r.total + (day - r.day) * nanosPerDay := by
  simp only [total, onDay, Reading.day, nanosPerDay]
  omega

/-- A move to another day does not lead into a leap second. -/
@[simp] lemma isLeap_onDay (r : Reading) (day : Int) : (r.onDay day).IsLeap ↔ r.IsLeap :=
  Iff.rfl

/-- Showing another second of the clock does not lead into a leap second. -/
@[simp] lemma isLeap_shift (r : Reading) (seconds : Int) : (r.shift seconds).IsLeap ↔ r.IsLeap :=
  Iff.rfl

/-- A clock that is set back and forward by as much shows what it did. -/
lemma shift_shift_neg (r : Reading) (seconds : Int) : (r.shift (-seconds)).shift seconds = r := by
  obtain ⟨secs, nanos, h⟩ := r
  simp only [shift, mk.injEq, and_true]
  omega

/-- Carrying keeps the count. -/
lemma total_carry (secs nanos : Int) :
    (carry secs nanos).total = secs * 1000000000 + nanos := by
  simp only [total, carry]
  omega

/-- Carrying does not lead into a leap second. -/
lemma not_isLeap_carry (secs nanos : Int) : ¬ (carry secs nanos).IsLeap := by
  simp only [IsLeap, carry]
  omega

/-- Outside leap seconds elapsed time is carried. -/
lemma elapse_eq_carry {r : Reading} (h : ¬ r.IsLeap) (millis : Int) :
    r.elapse millis =
      carry (r.secs + millis.tdiv 1000) (r.nanos + millis.tmod 1000 * 1000000) := by
  simp only [elapse]
  rw [if_pos (Nat.lt_of_not_le h)]

/-- Elapsed time adds to the count. -/
lemma total_elapse {r : Reading} (h : ¬ r.IsLeap) (millis : Int) :
    (r.elapse millis).total = r.total + millis * nanosPerMilli := by
  rw [elapse_eq_carry h, total_carry, total, nanosPerMilli]
  have := Int.mul_tdiv_add_tmod millis 1000
  omega

/-- Outside leap seconds elapsed time does not lead into one. -/
lemma not_isLeap_elapse {r : Reading} (h : ¬ r.IsLeap) (millis : Int) :
    ¬ (r.elapse millis).IsLeap := by
  rw [elapse_eq_carry h]
  exact not_isLeap_carry _ _

/-- When no time elapses nothing changes. -/
lemma elapse_zero {r : Reading} (h : ¬ r.IsLeap) : r.elapse 0 = r := by
  obtain ⟨secs, nanos, hnanos⟩ := r
  rw [elapse_eq_carry h]
  simp only [IsLeap] at h
  simp only [carry, mk.injEq, Int.zero_tdiv, Int.zero_tmod]
  omega

/-! ## Subtraction across a leap second -/

/-- The first reading is in the leap second at the end of a day, the second one in the first
second of the day after it, and the fraction of the second that is shown has become smaller, by so
many nanoseconds at least. -/
def RunsBack (earlier later : Reading) (nanos : Nat) : Prop :=
  earlier.IsLeap ∧ earlier.secondOfDay = 86399 ∧ later.secs = earlier.secs + 1 ∧
    later.nanosecond + nanos ≤ earlier.nanosecond

instance (earlier later : Reading) (nanos : Nat) : Decidable (earlier.RunsBack later nanos) :=
  inferInstanceAs (Decidable (_ ∧ _))

/-- When the subtraction of readings in order comes out below zero, and by how much.

**Proof sketch.** The seconds of the two readings are equal, next to each other, or further apart.
Only next to each other can the nanoseconds outweigh them, and then the time of day is either one
second later, so that the leap second is counted, or has begun anew. -/
theorem nanosSince_le_neg_iff {earlier later : Reading} (h : earlier ≤ later) {nanos : Nat}
    (hpos : 1 ≤ nanos) :
    later.nanosSince earlier ≤ -nanos ↔ earlier.RunsBack later nanos := by
  have he := earlier.nanos_lt
  have hl := later.nanos_lt
  have hle : earlier.secs < later.secs ∨
      (earlier.secs = later.secs ∧ earlier.nanos ≤ later.nanos) := h
  simp only [RunsBack, nanosSince, nanosecond]
  by_cases hfore : earlier.secondOfDay < later.secondOfDay ∧ earlier.IsLeap
  · rw [if_pos hfore]
    simp only [IsLeap, secondOfDay] at hfore ⊢
    omega
  · rw [if_neg hfore]
    by_cases hback : later.secondOfDay < earlier.secondOfDay ∧ later.IsLeap
    · rw [if_pos hback]
      simp only [IsLeap, secondOfDay] at hfore hback ⊢
      omega
    · rw [if_neg hback]
      simp only [IsLeap, secondOfDay] at hfore hback ⊢
      omega

/-- A second that runs back does so by less than a second. -/
lemma not_runsBack_of_le {earlier later : Reading} {nanos : Nat} (h : 1000000000 ≤ nanos) :
    ¬ earlier.RunsBack later nanos := by
  rintro ⟨-, -, -, hle⟩
  simp only [nanosecond] at hle
  omega

end Reading

end Almanac
