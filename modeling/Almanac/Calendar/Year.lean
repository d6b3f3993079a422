set_option relaxedAutoImplicit false
set_option autoImplicit false

/-!
# Years of the calendar

The proleptic Gregorian calendar with a year 0. Days are numbered from 1970-01-01, which is
day 0, so that moving by days is addition; the year of a day, and its place in that year, are read
off its number. The calendar has an end on both sides, and a day outside it is no day.

## Main definitions

* `Almanac.isLeapYear`, `Almanac.yearLength`, `Almanac.yearStart` — years and where they begin.
* `Almanac.yearOf` — the year of a day.
* `Almanac.InCalendar`, `Almanac.checkDay` — the days of the calendar.
* `Almanac.OrdinalDate` — years and places of days in them.

## Main results

* `Almanac.yearStart_yearOf_le`, `Almanac.lt_yearStart_yearOf_add_one` — a day lies in its year.
* `Almanac.yearOf_eq` — it lies in no other.
-/

namespace Almanac

/-! ## Leap years -/

/-- Every fourth year is a leap year, but of the centuries only every fourth. -/
def isLeapYear (y : Int) : Bool :=
  y % 4 = 0 ∧ (y % 100 ≠ 0 ∨ y % 400 = 0)

/-- The days of a year. -/
def yearLength (y : Int) : Nat :=
  if isLeapYear y then 366 else 365

/-- The number of January 1 of a year: a year has 365 days, and one more for each leap year
between year 0 and it. -/
def yearStart (y : Int) : Int :=
  365 * y + (y + 3) / 4 - (y + 99) / 100 + (y + 399) / 400 - 719528

/-- A year ends where the next one begins. -/
theorem yearStart_add_one (y : Int) : yearStart (y + 1) = yearStart y + yearLength y := by
  simp only [yearStart, yearLength, isLeapYear, decide_eq_true_eq]
  split <;> omega

/-- Years begin one after the other. -/
theorem yearStart_le_of_le {y z : Int} (h : y ≤ z) : yearStart y ≤ yearStart z := by
  unfold yearStart
  omega

/-! ## The year of a day -/

/-- The year of a day. Four hundred years have 146097 days; dividing by the mean length of a
year is off by at most one year. -/
def yearOf (day : Int) : Int :=
  let guess := (day + 719528) * 400 / 146097
  if day < yearStart guess then guess - 1
  else if yearStart (guess + 1) ≤ day then guess + 1
  else guess

/-- A day does not come before its year. -/
theorem yearStart_yearOf_le (day : Int) : yearStart (yearOf day) ≤ day := by
  unfold yearOf yearStart
  simp only []
  split
  · omega
  · split <;> omega

/-- A day comes before the year after its year. -/
theorem lt_yearStart_yearOf_add_one (day : Int) : day < yearStart (yearOf day + 1) := by
  unfold yearOf yearStart
  simp only []
  split
  · rw [Int.sub_add_cancel]
    omega
  · split <;> omega

/-- A day that lies in a year is a day of that year. -/
theorem yearOf_eq {day y : Int} (hstart : yearStart y ≤ day) (hend : day < yearStart (y + 1)) :
    yearOf day = y := by
  have hle := yearStart_yearOf_le day
  have hlt := lt_yearStart_yearOf_add_one day
  by_cases h : y < yearOf day
  · have := yearStart_le_of_le (show y + 1 ≤ yearOf day by omega)
    omega
  · by_cases h' : yearOf day < y
    · have := yearStart_le_of_le (show yearOf day + 1 ≤ y by omega)
      omega
    · omega

/-! ## The days of the calendar -/

/-- The first day of the calendar, January 1 of the year -262143. -/
def firstDay : Int := yearStart (-262143)

/-- The last day of the calendar, December 31 of the year 262142. -/
def lastDay : Int := yearStart 262143 - 1

/-- The calendar has 524286 years. -/
def InCalendar (day : Int) : Prop :=
  firstDay ≤ day ∧ day ≤ lastDay

instance (day : Int) : Decidable (InCalendar day) :=
  inferInstanceAs (Decidable (_ ∧ _))

/-- A day, if it is in the calendar. -/
def checkDay (day : Int) : Option Int :=
  if InCalendar day then some day else none

/-! ## Places in a year -/

/-- A day as a year and a place in it. -/
structure OrdinalDate where
  year : Int
  /-- From 1. -/
  ordinal : Nat
  deriving DecidableEq, Repr

namespace OrdinalDate

/-- The year of a day and its place there. -/
def ofDay (day : Int) : OrdinalDate :=
  ⟨yearOf day, (day - yearStart (yearOf day)).toNat + 1⟩

/-- The year has such a place. -/
def Exists (d : OrdinalDate) : Prop :=
  1 ≤ d.ordinal ∧ d.ordinal ≤ yearLength d.year

instance (d : OrdinalDate) : Decidable d.Exists :=
  inferInstanceAs (Decidable (_ ∧ _))

/-- The number of the day. -/
def toDay (d : OrdinalDate) : Int :=
  yearStart d.year + (d.ordinal - 1 : Nat)

/-- The number of the day, if there is such a day. -/
def toDay? (d : OrdinalDate) : Option Int :=
  if d.Exists then checkDay d.toDay else none

/-- A day is the day of its year and place. -/
@[simp] theorem toDay_ofDay (day : Int) : (ofDay day).toDay = day := by
  have := yearStart_yearOf_le day
  simp only [ofDay, toDay]
  omega

/-- Every day has a place in its year. -/
theorem exists_ofDay (day : Int) : (ofDay day).Exists := by
  have hle := yearStart_yearOf_le day
  have hlt := lt_yearStart_yearOf_add_one day
  rw [yearStart_add_one] at hlt
  simp only [Exists, ofDay]
  omega

/-- A place in a year is the place of its day. -/
theorem ofDay_toDay {d : OrdinalDate} (h : d.Exists) : ofDay d.toDay = d := by
  obtain ⟨y, n⟩ := d
  obtain ⟨hpos, hle⟩ := h
  simp only at hpos hle
  have hyear : yearOf (yearStart y + (n - 1 : Nat)) = y := by
    refine yearOf_eq (by omega) ?_
    rw [yearStart_add_one]
    omega
  simp only [ofDay, toDay, hyear, mk.injEq, true_and]
  omega

end OrdinalDate

end Almanac
