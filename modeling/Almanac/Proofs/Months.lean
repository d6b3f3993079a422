import Almanac.Proofs.Readings

set_option relaxedAutoImplicit false
set_option autoImplicit false

/-!
# Months one after the other

The months of all years are numbered from January of year 0, so that moving by months is addition
as well. A reading that is moved month by month strictly advances, by four weeks or more at a
time, however its day of the month is cut down on the way. That is what the search for the whole
months between two readings rests on.

## Main definitions

* `Almanac.monthStart`, `Almanac.monthDays` — where a numbered month begins, and its length.
* `Almanac.Reading.landingDate`, `Almanac.Reading.landing` — the date and the day on which a move
  by months lands.
* `Almanac.Reading.Reaches` — whether a move by months does not pass another reading.

## Main results

* `Almanac.Reading.landing_add_le` — moves by more months land four weeks later or more.
* `Almanac.Reading.reaches_mono` — with a number of months all smaller ones reach.
* `Almanac.monthsBetween_spec` — the search finds the greatest number that reaches.
-/

namespace Almanac

/-! ## Numbered months -/

/-- The day on which the month with a number begins. -/
def monthStart (i : Int) : Int :=
  yearStart (i / 12) + daysBeforeMonth (i / 12) ((i % 12).toNat + 1)

/-- The length of the month with a number. -/
def monthDays (i : Int) : Nat :=
  monthLength (i / 12) ((i % 12).toNat + 1)

/-- No month is shorter than four weeks. -/
lemma le_monthDays (i : Int) : 28 ≤ monthDays i := by
  have hlt : (i % 12).toNat < 12 := by omega
  simp only [monthDays, monthLength, Nat.add_sub_cancel]
  generalize (i % 12).toNat = m at hlt
  cases isLeapYear (i / 12) <;> revert m <;> decide

/-- The months before one more month. -/
lemma totalLength_take_succ (lengths : List Nat) (k : Nat) :
    totalLength (lengths.take (k + 1)) = totalLength (lengths.take k) + lengths.getD k 0 := by
  induction lengths generalizing k with
  | nil => simp [totalLength]
  | cons length rest ih =>
    cases k with
    | zero => simp [totalLength]
    | succ k =>
      simp only [List.take_succ_cons, List.getD_cons_succ, totalLength, ih]
      omega

/-- A month ends where the next one begins. -/
lemma monthStart_add_one (i : Int) : monthStart (i + 1) = monthStart i + monthDays i := by
  have hstep := totalLength_take_succ (monthLengths (isLeapYear (i / 12))) (i % 12).toNat
  by_cases hlast : i % 12 = 11
  · -- after December the twelve months make up the year
    have hyear := totalLength_monthLengths (i / 12)
    have htake : (monthLengths (isLeapYear (i / 12))).take ((i % 12).toNat + 1) =
        monthLengths (isLeapYear (i / 12)) := by
      rw [hlast]
      rfl
    rw [htake] at hstep
    simp only [monthStart, monthDays, monthLength, daysBeforeMonth, Nat.add_sub_cancel,
      show (i + 1) / 12 = i / 12 + 1 by omega, show (i + 1) % 12 = 0 by omega, yearStart_add_one,
      Int.toNat_zero, List.take_zero, totalLength]
    omega
  · simp only [monthStart, monthDays, monthLength, daysBeforeMonth, Nat.add_sub_cancel,
      show (i + 1) / 12 = i / 12 by omega, show ((i + 1) % 12).toNat = (i % 12).toNat + 1 by omega]
    omega

/-- Months do not overlap. -/
lemma monthStart_add_monthDays_le {i j : Int} (h : i < j) :
    monthStart i + monthDays i ≤ monthStart j := by
  obtain ⟨n, rfl⟩ : ∃ n : Nat, j = i + 1 + n := ⟨(j - (i + 1)).toNat, by omega⟩
  clear h
  induction n with
  | zero =>
    rw [← monthStart_add_one]
    simp
  | succ n ih =>
    rw [show i + 1 + ((n + 1 : Nat) : Int) = i + 1 + n + 1 by omega, monthStart_add_one]
    omega

/-! ## Moving a reading by months -/

namespace Reading

/-- The date on which a reading lands that is moved by months. -/
def landingDate (r : Reading) (count : Int) : Date :=
  ⟨(r.monthIndex + count) / 12, ((r.monthIndex + count) % 12).toNat + 1,
    min r.date.day (monthDays (r.monthIndex + count))⟩

/-- The day on which a reading lands that is moved by months. -/
def landing (r : Reading) (count : Int) : Int :=
  monthStart (r.monthIndex + count) +
    (min r.date.day (monthDays (r.monthIndex + count)) - 1 : Nat)

/-- The day of a reading, by its numbered month and its place there. -/
lemma day_eq (r : Reading) :
    1 ≤ r.date.day ∧ r.date.day ≤ monthDays r.monthIndex ∧
      r.day = monthStart r.monthIndex + (r.date.day - 1 : Nat) := by
  obtain ⟨h1, h2, h3, h4⟩ := Date.exists_ofDay r.day
  have hday := Date.toDay_ofDay r.day
  have hyear : r.monthIndex / 12 = r.date.year := by
    simp only [monthIndex, date]
    omega
  have hmonth : (r.monthIndex % 12).toNat + 1 = r.date.month := by
    simp only [monthIndex, date]
    omega
  simp only [monthDays, monthStart, hyear, hmonth]
  refine ⟨h3, h4, ?_⟩
  simp only [Date.toDay] at hday
  simp only [date]
  omega

/-- A move by no months lands where it begins. -/
@[simp] lemma landing_zero (r : Reading) : r.landing 0 = r.day := by
  obtain ⟨-, hle, hday⟩ := r.day_eq
  rw [landing, Int.add_zero, Nat.min_eq_left hle, ← hday]

/-- A move lands in the month that it is for. -/
lemma landing_bounds (r : Reading) (count : Int) :
    monthStart (r.monthIndex + count) ≤ r.landing count ∧
      r.landing count < monthStart (r.monthIndex + count) + monthDays (r.monthIndex + count) := by
  have hpos := r.day_eq.1
  have hdays := le_monthDays (r.monthIndex + count)
  simp only [landing]
  omega

/-- Moves by more months land four weeks later or more.

**Proof sketch.** Between two months next to each other the day of the month is cut down to the
shorter one at most, and no month is shorter than four weeks. -/
theorem landing_add_le (r : Reading) {a b : Int} (h : a < b) :
    r.landing a + 28 ≤ r.landing b := by
  have hpos := r.day_eq.1
  have hle := monthStart_add_monthDays_le (show r.monthIndex + a < r.monthIndex + b by omega)
  have ha := le_monthDays (r.monthIndex + a)
  have hb := le_monthDays (r.monthIndex + b)
  simp only [landing]
  omega

/-- A move forward does not land earlier. -/
lemma day_le_landing (r : Reading) (count : Nat) : r.day ≤ r.landing count := by
  rcases Nat.eq_zero_or_pos count with rfl | hpos
  · exact (r.landing_zero).ge
  · have := r.landing_add_le (show (0 : Int) < count by omega)
    rw [landing_zero] at this
    omega

/-- The date on which a move lands exists. -/
lemma exists_landingDate (r : Reading) (count : Int) : (r.landingDate count).Exists := by
  have hpos := r.day_eq.1
  have hdays := le_monthDays (r.monthIndex + count)
  refine ⟨by simp [landingDate], ?_, ?_, Nat.min_le_right _ _⟩
  · simp only [landingDate]
    omega
  · simp only [landingDate]
    omega

/-- The date on which a move lands is the date of its day. -/
lemma toDay_landingDate (r : Reading) (count : Int) :
    (r.landingDate count).toDay = r.landing count := by
  have hpos := r.day_eq.1
  have hdays := le_monthDays (r.monthIndex + count)
  simp only [Date.toDay, landingDate, landing, monthStart]
  omega

/-- A move by months is a move to the day on which it lands. -/
theorem addMonths?_eq (r : Reading) (count : Int) :
    r.addMonths? count = (r.onDay (r.landing count)).check := by
  have hmove : r.addMonths? count = (r.landingDate count).toDay?.map r.onDay := rfl
  rw [hmove, Date.toDay?, if_pos (r.exists_landingDate count), toDay_landingDate, checkDay, check]
  simp only [inRange_onDay]
  split <;> rfl

/-! ## Reaching -/

/-- A reading can be moved by so many months without passing another. -/
def Reaches (earlier later : Reading) (count : Nat) : Prop :=
  ∃ r, earlier.addMonths? count = some r ∧ r ≤ later

/-- Between readings of the calendar only the order counts. -/
lemma reaches_iff {earlier later : Reading} (he : earlier.InRange) (hl : later.InRange)
    (count : Nat) :
    earlier.Reaches later count ↔ earlier.onDay (earlier.landing count) ≤ later := by
  rw [Reaches, addMonths?_eq]
  exact check_onDay_le_iff he hl (earlier.day_le_landing count)

/-- With a number of months all smaller ones reach. -/
theorem reaches_mono {earlier later : Reading} (he : earlier.InRange) (hl : later.InRange)
    {m n : Nat} (hmn : m ≤ n) (h : earlier.Reaches later n) : earlier.Reaches later m := by
  rcases Nat.eq_or_lt_of_le hmn with rfl | hlt
  · exact h
  · rw [reaches_iff he hl] at h ⊢
    refine onDay_le_of_lt _ ?_
    have hland := earlier.landing_add_le (show (m : Int) < n by omega)
    by_contra hge
    exact not_onDay_le_of_lt _ (by omega) h

end Reading

/-! ## The search -/

/-- A search stops at a number that reaches. -/
lemma searchMonths_of_reaches {earlier later : Reading} {n : Nat} (hn : n + 1 ≤ maxMonths)
    (h : earlier.Reaches later (n + 1)) (tries : Nat) :
    searchMonths earlier later tries (n + 1) = .ok ⟨n + 1, tries + 1⟩ := by
  have hany : (earlier.addMonths? (n + 1 : Nat)).any (· ≤ later) = true := by
    simpa [Reading.Reaches, Option.any_eq_true] using h
  rw [searchMonths, if_neg (by omega), if_pos hany]

/-- A search goes on below a number that does not reach. -/
lemma searchMonths_of_not_reaches {earlier later : Reading} {n : Nat} (hn : n + 1 ≤ maxMonths)
    (h : ¬ earlier.Reaches later (n + 1)) (tries : Nat) :
    searchMonths earlier later tries (n + 1) = searchMonths earlier later (tries + 1) n := by
  have hany : ¬ (earlier.addMonths? (n + 1 : Nat)).any (· ≤ later) = true := by
    simpa [Reading.Reaches, Option.any_eq_true] using h
  rw [searchMonths, if_neg (by omega), if_neg hany]

/-- What a search down from a number finds: a number that reaches, or none but 0, and none of the
greater ones that were tried.

**Proof sketch.** Induction on the number: it reaches, or the search goes on below it. -/
lemma searchMonths_spec (earlier later : Reading) (tries n : Nat) (h : n ≤ maxMonths) :
    ∃ found, searchMonths earlier later tries n = .ok found ∧ found.months ≤ n ∧
      (found.months = 0 ∨ earlier.Reaches later found.months) ∧
      ∀ m, found.months < m → m ≤ n → ¬ earlier.Reaches later m := by
  induction n generalizing tries with
  | zero =>
    refine ⟨⟨0, tries⟩, rfl, le_rfl, Or.inl rfl, ?_⟩
    intro m hlt hle
    exact absurd hlt (Nat.not_lt.mpr hle)
  | succ n ih =>
    by_cases hreach : earlier.Reaches later (n + 1)
    · rw [searchMonths_of_reaches h hreach]
      refine ⟨_, rfl, le_rfl, Or.inr hreach, ?_⟩
      intro m hlt hle
      exact absurd hlt (Nat.not_lt.mpr hle)
    · rw [searchMonths_of_not_reaches h hreach]
      obtain ⟨found, hfound, hle, hor, hnone⟩ := ih (tries + 1) (by omega)
      refine ⟨found, hfound, by omega, hor, ?_⟩
      intro m hlt hm
      rcases Nat.eq_or_lt_of_le hm with rfl | hm
      · exact hreach
      · exact hnone m hlt (by omega)

/-- A day from the beginning of a month on is in that month or a later one. -/
lemma le_monthIndex_of_monthStart_le {r : Reading} {i : Int} (h : monthStart i ≤ r.day) :
    i ≤ r.monthIndex := by
  obtain ⟨hpos, hle, hday⟩ := r.day_eq
  by_contra hlt
  have := monthStart_add_monthDays_le (show r.monthIndex < i by omega)
  omega

/-- A day before the beginning of a month is in an earlier month. -/
lemma monthIndex_lt_of_lt_monthStart {r : Reading} {i : Int} (h : r.day < monthStart i) :
    r.monthIndex < i := by
  obtain ⟨hpos, hle, hday⟩ := r.day_eq
  by_contra hge
  rcases Int.le_iff_eq_or_lt.mp (show i ≤ r.monthIndex by omega) with rfl | hlt
  · omega
  · have := monthStart_add_monthDays_le hlt
    omega

/-- The calendar ends where a month begins. -/
lemma monthStart_end : monthStart 3145716 = lastDay + 1 := by
  decide

/-- The numbers of the months of the calendar. -/
lemma monthIndex_bounds {r : Reading} (h : r.InRange) :
    -3145716 ≤ r.monthIndex ∧ r.monthIndex < 3145716 := by
  obtain ⟨hfirst, hlast⟩ := h
  have hbegin : monthStart (-3145716) = firstDay := by decide
  have hend := monthStart_end
  exact ⟨le_monthIndex_of_monthStart_le (by omega), monthIndex_lt_of_lt_monthStart (by omega)⟩

/-- No move reaches past the month of the other reading. -/
lemma not_reaches_of_lt {earlier later : Reading} (he : earlier.InRange) (hl : later.InRange)
    {m : Nat} (h : later.monthIndex - earlier.monthIndex < m) : ¬ earlier.Reaches later m := by
  rw [Reading.reaches_iff he hl]
  refine Reading.not_onDay_le_of_lt _ ?_
  by_contra hge
  have hland := (earlier.landing_bounds m).1
  have := le_monthIndex_of_monthStart_le
    (show monthStart (earlier.monthIndex + m) ≤ later.day by omega)
  omega

/-- The search for the months between two readings of the calendar ends well, and of the positive
numbers of months those reach that are not greater than the one it finds. -/
theorem monthsBetween_spec {earlier later : Reading} (he : earlier.InRange) (hl : later.InRange) :
    ∃ found, monthsBetween earlier later = .ok found ∧
      ∀ m, 1 ≤ m → (earlier.Reaches later m ↔ m ≤ found.months) := by
  have hbe := monthIndex_bounds he
  have hbl := monthIndex_bounds hl
  obtain ⟨found, hfound, hle, hor, hnone⟩ := searchMonths_spec earlier later 0
    (later.monthIndex - earlier.monthIndex).toNat (by simp only [maxMonths]; omega)
  refine ⟨found, hfound, ?_⟩
  intro m hm
  constructor
  · intro hreach
    by_contra hlt
    by_cases hstart : m ≤ (later.monthIndex - earlier.monthIndex).toNat
    · exact hnone m (by omega) hstart hreach
    · exact not_reaches_of_lt he hl (by omega) hreach
  · intro hmf
    rcases hor with h0 | hreach
    · omega
    · exact Reading.reaches_mono he hl hmf hreach

end Almanac
