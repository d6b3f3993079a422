import Almanac.Calendar.Year

set_option relaxedAutoImplicit false
set_option autoImplicit false

/-!
# Dates

Days as years, months and days of the month.

## Main definitions

* `Almanac.monthLengths`, `Almanac.monthLength`, `Almanac.daysBeforeMonth`, `Almanac.maxMonths` —
  months.
* `Almanac.Date` — dates.
* `Almanac.Date.ofDay`, `Almanac.Date.toDay?` — the date of a day, and the day of a date.

## Main results

* `Almanac.Date.toDay_ofDay` — a day is the day of its date.
* `Almanac.Date.ofDay_toDay` — a date that exists is the date of its day.
-/

namespace Almanac

/-! ## Months -/

/-- The lengths of the months of a year. -/
def monthLengths (leap : Bool) : List Nat :=
  [31, if leap then 29 else 28, 31, 30, 31, 30, 31, 31, 30, 31, 30, 31]

/-- The length of month 1 to 12 of a year. -/
def monthLength (y : Int) (month : Nat) : Nat :=
  (monthLengths (isLeapYear y)).getD (month - 1) 0

/-- The number of days in months of the given lengths. -/
def totalLength : List Nat → Nat
  | [] => 0
  | length :: rest => length + totalLength rest

/-- The days of a year that come before month 1 to 12. -/
def daysBeforeMonth (y : Int) (month : Nat) : Nat :=
  totalLength ((monthLengths (isLeapYear y)).take (month - 1))

/-- The most months by which a date is moved at once. -/
def maxMonths : Nat := 4294967295

/-- The months of a year make up the year. -/
theorem totalLength_monthLengths (y : Int) :
    totalLength (monthLengths (isLeapYear y)) = yearLength y := by
  unfold yearLength
  cases isLeapYear y <;> rfl

/-- The month and the day of the month, both from 1, of the day that comes after `n` others in
months of the given lengths. -/
def monthAndDay : List Nat → Nat → Nat × Nat
  | [], n => (1, n + 1)
  | length :: rest, n =>
    if n < length then (1, n + 1)
    else
      let (month, day) := monthAndDay rest (n - length)
      (month + 1, day)

/-- The month and the day of the month are within bounds, and the days before them are those that
were counted.

**Proof sketch.** Induction on the months: either the day falls into the first one, or the first
one is taken off both the count and the sum. -/
theorem monthAndDay_bounds (lengths : List Nat) (n : Nat) (h : n < totalLength lengths) :
    1 ≤ (monthAndDay lengths n).1 ∧ (monthAndDay lengths n).1 ≤ lengths.length ∧
      1 ≤ (monthAndDay lengths n).2 ∧
      (monthAndDay lengths n).2 ≤ lengths.getD ((monthAndDay lengths n).1 - 1) 0 ∧
      totalLength (lengths.take ((monthAndDay lengths n).1 - 1)) +
        ((monthAndDay lengths n).2 - 1) = n := by
  induction lengths generalizing n with
  | nil => simp [totalLength] at h
  | cons length rest ih =>
    simp only [totalLength] at h
    simp only [monthAndDay]
    split
    · simp [totalLength]
      omega
    · obtain ⟨h1, h2, h3, h4, h5⟩ := ih (n - length) (by omega)
      obtain ⟨m, hm⟩ : ∃ m, (monthAndDay rest (n - length)).1 = m + 1 :=
        ⟨_, (Nat.sub_add_cancel h1).symm⟩
      simp only [hm] at h1 h2 h4 h5 ⊢
      simp [totalLength] at h2 h4 h5 ⊢
      omega

/-- A day within the bounds of a month is found again.

**Proof sketch.** Induction on the months before it. -/
theorem monthAndDay_of_bounds (lengths : List Nat) (month day : Nat) (hmonth : 1 ≤ month)
    (hday : 1 ≤ day) (hle : day ≤ lengths.getD (month - 1) 0) :
    monthAndDay lengths (totalLength (lengths.take (month - 1)) + (day - 1)) = (month, day) := by
  obtain ⟨m, rfl⟩ : ∃ m, month = m + 1 := ⟨_, (Nat.sub_add_cancel hmonth).symm⟩
  rw [Nat.add_sub_cancel] at hle ⊢
  clear hmonth
  induction lengths generalizing m with
  | nil =>
    rw [List.getD_nil] at hle
    omega
  | cons length rest ih =>
    cases m with
    | zero =>
      simp only [List.getD_cons_zero] at hle
      simp only [List.take_zero, totalLength, monthAndDay]
      split
      · rw [Nat.zero_add, Nat.zero_add, Nat.sub_add_cancel hday]
      · omega
    | succ m =>
      simp only [List.getD_cons_succ] at hle
      simp only [List.take_succ_cons, totalLength, monthAndDay]
      split
      · omega
      · rw [show length + totalLength (rest.take m) + (day - 1) - length =
          totalLength (rest.take m) + (day - 1) by omega, ih m hle]

/-- The days of a month come after those of the months before it. -/
theorem totalLength_take_add_getD_le (lengths : List Nat) (k : Nat) :
    totalLength (lengths.take k) + lengths.getD k 0 ≤ totalLength lengths := by
  induction lengths generalizing k with
  | nil => simp [totalLength]
  | cons length rest ih =>
    cases k with
    | zero => simp [totalLength]
    | succ k =>
      have := ih k
      simp only [List.take_succ_cons, List.getD_cons_succ, totalLength]
      omega

/-! ## Dates -/

/-- A date in years, months and days. -/
structure Date where
  year : Int
  /-- From 1 to 12. -/
  month : Nat
  /-- From 1 to the length of the month. -/
  day : Nat
  deriving DecidableEq, Repr

namespace Date

/-- The date of a day. -/
def ofDay (day : Int) : Date :=
  let y := yearOf day
  let found := monthAndDay (monthLengths (isLeapYear y)) (day - yearStart y).toNat
  ⟨y, found.1, found.2⟩

/-- There is such a month, and it has such a day. -/
def Exists (d : Date) : Prop :=
  1 ≤ d.month ∧ d.month ≤ 12 ∧ 1 ≤ d.day ∧ d.day ≤ monthLength d.year d.month

instance (d : Date) : Decidable d.Exists :=
  inferInstanceAs (Decidable (_ ∧ _))

/-- The number of the day. -/
def toDay (d : Date) : Int :=
  yearStart d.year + (daysBeforeMonth d.year d.month + (d.day - 1) : Nat)

/-- The number of the day, if there is such a day. -/
def toDay? (d : Date) : Option Int :=
  if d.Exists then checkDay d.toDay else none

/-- The date of a day exists, and the day is its day. -/
theorem exists_and_toDay_ofDay (day : Int) : (ofDay day).Exists ∧ (ofDay day).toDay = day := by
  have hle := yearStart_yearOf_le day
  have hlt := lt_yearStart_yearOf_add_one day
  rw [yearStart_add_one] at hlt
  have hbound : (day - yearStart (yearOf day)).toNat <
      totalLength (monthLengths (isLeapYear (yearOf day))) := by
    rw [totalLength_monthLengths]
    omega
  obtain ⟨h1, h2, h3, h4, h5⟩ := monthAndDay_bounds _ _ hbound
  refine ⟨⟨h1, ?_, h3, h4⟩, ?_⟩
  · exact Nat.le_trans h2 (by cases isLeapYear (yearOf day) <;> decide)
  · simp only [toDay, daysBeforeMonth, ofDay]
    rw [h5]
    omega

/-- The date of a day exists. -/
theorem exists_ofDay (day : Int) : (ofDay day).Exists :=
  (exists_and_toDay_ofDay day).1

/-- A day is the day of its date. -/
@[simp] theorem toDay_ofDay (day : Int) : (ofDay day).toDay = day :=
  (exists_and_toDay_ofDay day).2

/-- The days before a day of a month leave room for it in the year. -/
theorem daysBeforeMonth_add_lt {d : Date} (h : d.Exists) :
    daysBeforeMonth d.year d.month + (d.day - 1) < yearLength d.year := by
  obtain ⟨-, -, hpos, hle⟩ := h
  have := totalLength_take_add_getD_le (monthLengths (isLeapYear d.year)) (d.month - 1)
  rw [totalLength_monthLengths] at this
  simp only [daysBeforeMonth, monthLength] at hle ⊢
  omega

/-- A date that exists is the date of its day. -/
theorem ofDay_toDay {d : Date} (h : d.Exists) : ofDay d.toDay = d := by
  have hroom := daysBeforeMonth_add_lt h
  have hyear : yearOf d.toDay = d.year := by
    refine yearOf_eq (by simp only [toDay]; omega) ?_
    rw [yearStart_add_one]
    simp only [toDay]
    omega
  have hplace : (d.toDay - yearStart d.year).toNat =
      daysBeforeMonth d.year d.month + (d.day - 1) := by
    simp only [toDay]
    omega
  simp only [ofDay, hyear, hplace, daysBeforeMonth]
  rw [monthAndDay_of_bounds _ _ _ h.1 h.2.2.1 h.2.2.2]

end Date

end Almanac
