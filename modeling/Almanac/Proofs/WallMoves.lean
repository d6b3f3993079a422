import Almanac.Proofs.Months
import Almanac.Proofs.Moves
import Almanac.Proofs.Rounding
import Almanac.Proofs.RunningSums

set_option relaxedAutoImplicit false
set_option autoImplicit false

/-!
# Setting the wall clock

A duration of years, months, weeks or days counts whole months or days, and moves an instant to the
moment of the reading that is as many months or days from what the wall clock shows, at the same
time of day. What this reading is can be said from its own date and time: the number of its month,
the day of its month, its day. The bounds on the numbers that a move computes with never show, since
the calendar is smaller than all of them.

## Main definitions

* `Almanac.Reading.SameTime`, `Almanac.Span.Sets` — when a reading is some months or days from
  another, at the same time of day.
* `Almanac.Span.moved?` — where months or days move a reading.

## Main results

* `Almanac.Span.moved?_eq_some_iff` — where a reading is moved to.
* `Almanac.Zone.move_of_sets`, `Almanac.Zone.move_of_not_sets` — what a move comes to.
* `Almanac.Zone.move_wall` — when a move succeeds, and with what it fails.
-/

namespace Almanac

/-- Two readings are at the same time of day, both or neither in a leap second. -/
def Reading.SameTime (r s : Reading) : Prop :=
  s.secondOfDay = r.secondOfDay ∧ s.nanos = r.nanos

instance (r s : Reading) : Decidable (r.SameTime s) :=
  inferInstanceAs (Decidable (_ ∧ _))

/-- A reading is at a number of months or days from another, at the same time of day. Months lead to
the same day of the month, or to the last one if the month is too short. -/
def Span.Sets (r s : Reading) : Span → Prop
  | months n => (s.monthIndex = r.monthIndex + n ∧
      s.date.day = min r.date.day (monthLength s.date.year s.date.month)) ∧ r.SameTime s
  | days n => s.day = r.day + n ∧ r.SameTime s
  | fixed _ => False

instance (r s : Reading) : DecidablePred (Span.Sets r s)
  | .months _ => inferInstanceAs (Decidable (_ ∧ _))
  | .days _ => inferInstanceAs (Decidable (_ ∧ _))
  | .fixed _ => isFalse not_false

/-- The reading of the calendar at a number of months or days from another, if there is one. -/
def Span.moved? (r : Reading) : Span → Option Reading
  | months n => r.addMonths? n
  | days n => r.addDays? n
  | fixed _ => none

/-! ## Readings on other days -/

namespace Reading

/-- A reading is another one on some day if it is on that day at the same time. -/
lemma eq_onDay_iff {r s : Reading} {day : Int} :
    s = r.onDay day ↔ s.day = day ∧ r.SameTime s := by
  constructor
  · rintro rfl
    refine ⟨day_onDay r day, ?_, rfl⟩
    simp only [onDay, secondOfDay]
    omega
  · rintro ⟨hday, htime, hnanos⟩
    obtain ⟨secs, nanos, hlt⟩ := s
    simp only [Reading.day, secondOfDay] at hday htime hnanos
    simp only [onDay, mk.injEq]
    omega

/-- The date of a day is the one on which a move by months lands if its month has the number that is
larger by as many, and if its day is that of the reading or the last one of the month. -/
lemma day_eq_landing_iff {r s : Reading} {n : Int} :
    s.day = r.landing n ↔ s.monthIndex = r.monthIndex + n ∧
      s.date.day = min r.date.day (monthLength s.date.year s.date.month) := by
  have hland : Date.ofDay (r.landing n) = r.landingDate n := by
    rw [← toDay_landingDate, Date.ofDay_toDay (r.exists_landingDate n)]
  constructor
  · intro hday
    have hdate : s.date = r.landingDate n := by rw [date, hday, hland]
    refine ⟨?_, by rw [hdate]; rfl⟩
    rw [monthIndex, hdate]
    simp only [landingDate]
    omega
  · rintro ⟨hindex, hcut⟩
    obtain ⟨hpos, hle, -, -⟩ := Date.exists_ofDay s.day
    have hyear : s.date.year = (r.monthIndex + n) / 12 := by
      rw [← hindex]
      simp only [monthIndex, date]
      omega
    have hmonth : s.date.month = ((r.monthIndex + n) % 12).toNat + 1 := by
      rw [← hindex]
      simp only [monthIndex, date]
      omega
    have hdate : s.date = r.landingDate n := by
      rw [landingDate, monthDays, ← hyear, ← hmonth, ← hcut]
    rw [← toDay_landingDate, ← hdate, date, Date.toDay_ofDay]

/-- A move by months leads to the reading of the calendar that is as many months from another. -/
theorem addMonths?_eq_some_iff {r s : Reading} {n : Int} :
    r.addMonths? n = some s ↔ (Span.months n).Sets r s ∧ s.InRange := by
  rw [addMonths?_eq, check_eq_some_iff, inRange_onDay, eq_comm, eq_onDay_iff, day_eq_landing_iff,
    and_comm]
  refine and_congr_right fun hsets => ?_
  rw [InRange, day_eq_landing_iff.mpr hsets.1]

/-- A move by days leads to the reading of the calendar that is as many days from another. -/
theorem addDays?_eq_some_iff {r s : Reading} {n : Int} :
    r.addDays? n = some s ↔ (Span.days n).Sets r s ∧ s.InRange := by
  rw [addDays?, check_eq_some_iff, inRange_onDay, eq_comm, eq_onDay_iff, and_comm]
  refine and_congr_right fun hsets => ?_
  rw [InRange, hsets.1]

end Reading

namespace Span

/-- A quantity moves a reading to the one of the calendar that is as many months or days away. -/
theorem moved?_eq_some_iff {span : Span} {r s : Reading} :
    span.moved? r = some s ↔ span.Sets r s ∧ s.InRange := by
  cases span with
  | months n => exact Reading.addMonths?_eq_some_iff
  | days n => exact Reading.addDays?_eq_some_iff
  | fixed n =>
    constructor
    · rintro ⟨⟩
    · rintro ⟨⟨⟩, -⟩

/-- What leads from one reading to another is counted on the wall clock. -/
lemma Sets.onWall {span : Span} {n : Int} {r s : Reading} (h : (span.withCount n).Sets r s) :
    span.OnWall := by
  cases span with
  | months per => trivial
  | days per => trivial
  | fixed per => exact h.elim

/-! ## Bounds on the numbers -/

/-- Two readings of the calendar are not too many months or days apart to be moved from one to the
other. -/
lemma setsClock_of_sets {r s : Reading} (hr : r.InRange) (hs : s.InRange) {span : Span}
    {direction : Direction} {n : Int} (h : (span.withCount (direction.sign * n)).Sets r s) :
    Fits64 n ∧ (span.withCount n).SetsClock direction := by
  have habs := direction.natAbs_sign_mul n
  cases span with
  | months per =>
    obtain ⟨⟨hindex, -⟩, -⟩ := h
    have hbr := monthIndex_bounds hr
    have hbs := monthIndex_bounds hs
    have hn : n.natAbs ≤ maxMonths := by
      simp only [maxMonths]
      omega
    refine ⟨?_, hn⟩
    simp only [maxMonths] at hn
    constructor <;> omega
  | days per =>
    obtain ⟨hday, -⟩ := h
    simp only [Reading.InRange, InCalendar, firstDay, lastDay, yearStart] at hr hs
    have hn : Fits64 (direction.sign * n) := by
      constructor <;> omega
    refine ⟨?_, hn⟩
    constructor <;> omega
  | fixed per => exact h.elim

end Span

namespace Zone

variable {z : Zone} {x : Instant} {direction : Direction} {d : Duration}

/-! ## Moves -/

/-- A move by months or days from a clock in the calendar resolves the reading to which the clock is
set, unless there are too many of them. -/
lemma move_onWall (hx : (z.reading x).InRange) (hunit : d.unit.span.OnWall)
    (direction : Direction) : z.move x direction d =
      if Fits64 d.count ∧ (d.unit.span.withCount d.count).SetsClock direction then
        z.resolveMoved (.outOfRange (.move x direction d))
          ((d.unit.span.withCount (direction.sign * d.count)).moved? (z.reading x))
      else .error (.outOfRange (.move x direction d)) := by
  rw [move, d.spanOf?_eq, ite_and]
  by_cases hfits : Fits64 d.count
  · rw [if_pos hfits, if_pos hfits]
    cases hspan : d.unit.span with
    | months per =>
      simp only [Span.withCount, Span.SetsClock, Span.moved?, wallClock_of_inRange hx]
      rfl
    | days per =>
      simp only [Span.withCount, Span.SetsClock, Span.moved?, wallClock_of_inRange hx]
      rfl
    | fixed per =>
      rw [hspan] at hunit
      exact hunit.elim
  · rw [if_neg hfits, if_neg hfits]

/-- A move that sets the wall clock to a reading of the calendar comes to what this is resolved
to. -/
theorem move_of_sets (hx : (z.reading x).InRange) {r : Reading}
    (h : (d.unit.span.withCount (direction.sign * d.count)).Sets (z.reading x) r)
    (hr : r.InRange) : z.move x direction d = z.resolve r := by
  rw [move_onWall hx h.onWall, if_pos (Span.setsClock_of_sets hx hr h),
    Span.moved?_eq_some_iff.mpr ⟨h, hr⟩, resolveMoved]

/-- A move that sets the wall clock to no reading of the calendar is out of range. -/
theorem move_of_not_sets (hx : (z.reading x).InRange) (hunit : d.unit.span.OnWall)
    (h : ∀ r, (d.unit.span.withCount (direction.sign * d.count)).Sets (z.reading x) r →
      ¬ r.InRange) : z.move x direction d = .error (.outOfRange (.move x direction d)) := by
  have hmoved : (d.unit.span.withCount (direction.sign * d.count)).moved? (z.reading x) = none := by
    refine Option.eq_none_iff_forall_ne_some.mpr fun r hr => ?_
    obtain ⟨hsets, hrange⟩ := Span.moved?_eq_some_iff.mp hr
    exact h r hsets hrange
  rw [move_onWall hx hunit, hmoved, resolveMoved, ite_self]

/-- A move by years, months, weeks or days from a clock in the calendar succeeds exactly if the
number of months or days that the duration counts has 64 bits, the reading that is as many of them
from the clock is in the calendar, and the zone resolves it; then the move comes to the moment of
that reading. In all other cases it is out of range. -/
theorem move_wall (hx : (z.reading x).InRange) (hunit : d.unit.span.OnWall)
    (direction : Direction) :
    (∀ i, z.move x direction d = .ok i ↔ Fits64 d.count ∧ ∃ r,
      (d.unit.span.withCount (direction.sign * d.count)).Sets (z.reading x) r ∧ r.InRange ∧
        z.resolve r = .ok i) ∧
    ∀ e, z.move x direction d = .error e → ∃ f, e = .outOfRange f := by
  by_cases hmoved : ∃ r, (d.unit.span.withCount (direction.sign * d.count)).Sets (z.reading x) r ∧
      r.InRange
  · obtain ⟨r, hsets, hr⟩ := hmoved
    have hmove := move_of_sets hx hsets hr
    refine ⟨fun i => ⟨fun hi => ?_, ?_⟩, fun e he => ?_⟩
    · rw [hmove] at hi
      exact ⟨(Span.setsClock_of_sets hx hr hsets).1, r, hsets, hr, hi⟩
    · rintro ⟨-, s, hsets', hs, hi⟩
      rwa [move_of_sets hx hsets' hs]
    · rw [hmove] at he
      exact ⟨_, error_of_resolve he⟩
  · have hmove := move_of_not_sets hx hunit fun r hsets hr => hmoved ⟨r, hsets, hr⟩
    refine ⟨fun i => ⟨fun hi => ?_, ?_⟩, fun e he => ?_⟩
    · rw [hmove] at hi
      cases hi
    · rintro ⟨-, r, hsets, hr, -⟩
      exact absurd ⟨r, hsets, hr⟩ hmoved
    · rw [hmove] at he
      cases he
      exact ⟨_, rfl⟩

/-- A month before the leap second at the end of 2016, in New York. November has no 31st, and keeps
the leap second. -/
theorem move_wall_leapSecond :
    (newYork.reading ⟨⟨1483228799, 1500000000, by decide⟩, 0⟩).InRange ∧
      newYork.reading ⟨⟨1480550399, 1500000000, by decide⟩, 0⟩ =
        ⟨1480532399, 1500000000, by decide⟩ ∧
      newYork.move ⟨⟨1483228799, 1500000000, by decide⟩, 0⟩ .backward
        ⟨⟨1000000000, by decide⟩, .months⟩ =
          .ok ⟨⟨1480550399, 1500000000, by decide⟩, -18000⟩ := by
  have hx : (newYork.reading ⟨⟨1483228799, 1500000000, by decide⟩, 0⟩).InRange := by
    decide +kernel
  refine ⟨hx, by decide +kernel, ((move_wall hx (by decide) .backward).1 _).mpr ?_⟩
  exact ⟨by decide, ⟨1480532399, 1500000000, by decide⟩, by decide +kernel, by decide,
    by decide +kernel⟩

end Zone

end Almanac
