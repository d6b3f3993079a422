import Almanac.Calendar.Year

set_option relaxedAutoImplicit false
set_option autoImplicit false

/-!
# Weeks

Weeks begin on Monday and belong to the year in which their Thursday lies, so that week 1 of a
year is the week of January 4.

## Main definitions

* `Almanac.weekday` — the day of the week.
* `Almanac.WeekDate` — days as years, weeks and days of the week.
* `Almanac.WeekDate.ofDay`, `Almanac.WeekDate.toDay?` — the week date of a day, and the day of a
  week date.

## Main results

* `Almanac.WeekDate.toDay_ofDay` — a day is the day of its week date.
* `Almanac.WeekDate.ofDay_toDay` — a week date that exists is the week date of its day.
-/

namespace Almanac

/-- The days since Monday. Day 0 was a Thursday. -/
def weekday (day : Int) : Nat :=
  ((day + 3) % 7).toNat

/-- The Monday of week 1 of a year. -/
def weekYearStart (y : Int) : Int :=
  yearStart y + 3 - weekday (yearStart y + 3)

/-- A day as a year, a week of it and a day of the week. -/
structure WeekDate where
  year : Int
  /-- From 1. -/
  week : Nat
  /-- From Monday, which is 1. -/
  day : Nat
  deriving DecidableEq, Repr

namespace WeekDate

/-- The week date of a day. -/
def ofDay (day : Int) : WeekDate :=
  let y := yearOf (day - weekday day + 3)
  ⟨y, ((day - weekYearStart y) / 7).toNat + 1, weekday day + 1⟩

/-- The year has such a week, and the week such a day. -/
def Exists (d : WeekDate) : Prop :=
  1 ≤ d.week ∧ weekYearStart d.year + 7 * (d.week - 1 : Nat) < weekYearStart (d.year + 1) ∧
    1 ≤ d.day ∧ d.day ≤ 7

instance (d : WeekDate) : Decidable d.Exists :=
  inferInstanceAs (Decidable (_ ∧ _))

/-- The number of the day. -/
def toDay (d : WeekDate) : Int :=
  weekYearStart d.year + 7 * (d.week - 1 : Nat) + (d.day - 1 : Nat)

/-- The number of the day, if there is such a day. -/
def toDay? (d : WeekDate) : Option Int :=
  if d.Exists then checkDay d.toDay else none

/-- The weeks of a year follow its first Monday, and their Thursdays lie in it. -/
theorem weekYearStart_le (day : Int) :
    weekYearStart (yearOf (day - weekday day + 3)) ≤ day - weekday day ∧
      day - weekday day < weekYearStart (yearOf (day - weekday day + 3) + 1) := by
  have hle := yearStart_yearOf_le (day - weekday day + 3)
  have hlt := lt_yearStart_yearOf_add_one (day - weekday day + 3)
  simp only [weekYearStart, weekday] at *
  omega

/-- The week date of a day exists. -/
theorem exists_ofDay (day : Int) : (ofDay day).Exists := by
  obtain ⟨hle, hlt⟩ := weekYearStart_le day
  simp only [Exists, ofDay]
  simp only [weekYearStart, weekday] at *
  omega

/-- A day is the day of its week date. -/
@[simp] theorem toDay_ofDay (day : Int) : (ofDay day).toDay = day := by
  obtain ⟨hle, hlt⟩ := weekYearStart_le day
  simp only [toDay, ofDay]
  simp only [weekYearStart, weekday] at *
  omega

/-- A week date that exists is the week date of its day. -/
theorem ofDay_toDay {d : WeekDate} (h : d.Exists) : ofDay d.toDay = d := by
  obtain ⟨y, w, n⟩ := d
  obtain ⟨h1, h2, h3, h4⟩ := h
  simp only at h1 h2 h3 h4
  have hday : weekday (weekYearStart y + 7 * (w - 1 : Nat) + (n - 1 : Nat)) = n - 1 := by
    simp only [weekYearStart, weekday]
    omega
  have hyear : yearOf (weekYearStart y + 7 * (w - 1 : Nat) + 3) = y := by
    refine yearOf_eq ?_ ?_
    · simp only [weekYearStart, weekday]
      omega
    · simp only [weekYearStart, weekday] at h2 ⊢
      omega
  simp only [ofDay, toDay, hday]
  rw [show weekYearStart y + 7 * ((w - 1 : Nat) : Int) + ((n - 1 : Nat) : Int) -
    ((n - 1 : Nat) : Int) + 3 = weekYearStart y + 7 * ((w - 1 : Nat) : Int) + 3 by omega, hyear]
  simp only [mk.injEq, true_and]
  omega

end WeekDate

end Almanac
