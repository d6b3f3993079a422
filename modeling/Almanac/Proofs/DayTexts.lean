import Almanac.DateText
import Almanac.Proofs.Numerals

set_option relaxedAutoImplicit false
set_option autoImplicit false

/-!
# Days in digits

The shapes in which days are written, with numerals of fixed widths for their fields. Every shape
has a reader, and the readers are tried in an order; but the order does not matter, since of the
texts of a shape no reader but its own takes one to the end, whatever the numerals are. So a day
that the fields do not denote is no other day either.

## Main definitions

* `Almanac.DateDigits` — year, month and day in digits.
* `Almanac.DayShape`, `Almanac.DayShape.reader` — the shapes and their readers.
* `Almanac.DayText`, `Almanac.DayText.chars` — texts of all shapes.
* `Almanac.DayText.Denotes` — the day that a text denotes.

## Main results

* `Almanac.DayText.day?_eq_some_iff` — the fields of a text denote its day.
* `Almanac.DayText.all_reader` — a text is read by the reader of its own shape only.
* `Almanac.DateText.firstOf_dateShapes` — what is read of a text.
-/

namespace Almanac

open DateText Reader

/-! ## Texts -/

/-- The signs between year, month and day. -/
inductive DateSeparator
  | hyphen
  | slash
  deriving DecidableEq, Repr

/-- The sign itself. -/
def DateSeparator.char : DateSeparator → Char
  | hyphen => '-'
  | slash => '/'

/-- Year, month and day in digits. -/
structure DateDigits where
  year : Numeral 4
  month : Numeral 2
  day : Numeral 2

namespace DateDigits

/-- The digits, from year to day, with a sign between them. -/
def chars (d : DateDigits) (separator : DateSeparator) : List Char :=
  d.year.chars ++ separator.char :: (d.month.chars ++ separator.char :: d.day.chars)

/-- The date in digits. There may be no such date. -/
def date (d : DateDigits) : Date :=
  ⟨d.year.value, d.month.value, d.day.value⟩

end DateDigits

/-- The shapes in which days are written. -/
inductive DayShape
  | separated (separator : DateSeparator)
  | compact
  | week
  | monthFirst
  | month
  | ordinal
  | year
  deriving DecidableEq, Repr

/-- The reader of a shape. -/
def DayShape.reader : DayShape → Reader Int
  | separated separator => calendarDate separator.char
  | compact => compactDate
  | week => weekDate
  | monthFirst => monthFirstDate
  | month => yearMonth
  | ordinal => ordinalDate
  | year => yearAlone

/-- A day in digits. -/
inductive DayText
  /-- As in `2024-01-31` or `2024/01/31`. -/
  | separated (separator : DateSeparator) (d : DateDigits)
  /-- As in `20240131`. -/
  | compact (d : DateDigits)
  /-- As in `2024-W05-3`. -/
  | week (year : Numeral 4) (week : Numeral 2) (day : Numeral 1)
  /-- As in `01/31/2024`. -/
  | monthFirst (d : DateDigits)
  /-- As in `2024-01`. -/
  | month (year : Numeral 4) (month : Numeral 2)
  /-- As in `2024-031`. -/
  | ordinal (year : Numeral 4) (place : Numeral 3)
  /-- As in `2024`. -/
  | year (year : Numeral 4)

namespace DayText

/-- The text itself. -/
def chars : DayText → List Char
  | separated separator d => d.chars separator
  | compact d => d.year.chars ++ (d.month.chars ++ d.day.chars)
  | week y w n => y.chars ++ '-' :: 'W' :: (w.chars ++ '-' :: n.chars)
  | monthFirst d => d.month.chars ++ '/' :: (d.day.chars ++ '/' :: d.year.chars)
  | month y m => y.chars ++ '-' :: m.chars
  | ordinal y n => y.chars ++ '-' :: n.chars
  | year y => y.chars

/-- The shape of a text. -/
def shape : DayText → DayShape
  | separated separator _ => .separated separator
  | compact _ => .compact
  | week _ _ _ => .week
  | monthFirst _ => .monthFirst
  | month _ _ => .month
  | ordinal _ _ => .ordinal
  | year _ => .year

/-- A text denotes a day: it has the fields of the day, and those that it has not are the first
ones. -/
def Denotes (t : DayText) (day : Int) : Prop :=
  match t with
  | separated _ d | compact d | monthFirst d => Date.ofDay day = d.date
  | week y w n => WeekDate.ofDay day = ⟨y.value, w.value, n.value⟩
  | month y m => Date.ofDay day = ⟨y.value, m.value, 1⟩
  | ordinal y n => OrdinalDate.ofDay day = ⟨y.value, n.value⟩
  | year y => Date.ofDay day = ⟨y.value, 1, 1⟩

/-- The day of the calendar with the fields of a text, if there is one. -/
def day? : DayText → Option Int
  | separated _ d | compact d | monthFirst d => d.date.toDay?
  | week y w n => (WeekDate.mk y.value w.value n.value).toDay?
  | month y m => (Date.mk y.value m.value 1).toDay?
  | ordinal y n => (OrdinalDate.mk y.value n.value).toDay?
  | year y => (Date.mk y.value 1 1).toDay?

end DayText

/-! ## Days by their fields -/

/-- Fields denote a day of the calendar if they are those of that day. -/
lemma checkDay_eq_some_iff {α : Type} {Exists : α → Prop} [DecidablePred Exists] {toDay : α → Int}
    {ofDay : Int → α} (hexists : ∀ day, Exists (ofDay day)) (hday : ∀ day, toDay (ofDay day) = day)
    (hfields : ∀ {d}, Exists d → ofDay (toDay d) = d) {d : α} {day : Int} :
    (if Exists d then checkDay (toDay d) else none) = some day ↔
      ofDay day = d ∧ InCalendar day := by
  constructor
  · intro h
    split_ifs at h with hd
    rw [checkDay] at h
    split_ifs at h with hin
    cases h
    exact ⟨hfields hd, hin⟩
  · rintro ⟨rfl, hin⟩
    rw [if_pos (hexists day), hday, checkDay, if_pos hin]

/-- A date denotes a day of the calendar if it is the date of that day. -/
lemma Date.toDay?_eq_some_iff {d : Date} {day : Int} :
    d.toDay? = some day ↔ Date.ofDay day = d ∧ InCalendar day :=
  checkDay_eq_some_iff exists_ofDay toDay_ofDay ofDay_toDay

/-- A week date denotes a day of the calendar if it is the week date of that day. -/
lemma WeekDate.toDay?_eq_some_iff {d : WeekDate} {day : Int} :
    d.toDay? = some day ↔ WeekDate.ofDay day = d ∧ InCalendar day :=
  checkDay_eq_some_iff exists_ofDay toDay_ofDay ofDay_toDay

/-- A place in a year denotes a day of the calendar if it is the place of that day. -/
lemma OrdinalDate.toDay?_eq_some_iff {d : OrdinalDate} {day : Int} :
    d.toDay? = some day ↔ OrdinalDate.ofDay day = d ∧ InCalendar day :=
  checkDay_eq_some_iff exists_ofDay toDay_ofDay ofDay_toDay

/-- A day within a week of a day of a year of four digits is in the calendar. -/
lemma inCalendar_of_near {day other : Int} {year : Numeral 4} (hyear : yearOf other = year.value)
    (hnear : (day - other).natAbs ≤ 7) : InCalendar day := by
  have hlt : year.value < 10000 := year.value_lt
  have hlow := yearStart_yearOf_le other
  have hhigh := lt_yearStart_yearOf_add_one other
  rw [hyear] at hlow hhigh
  simp only [InCalendar, firstDay, lastDay, yearStart] at *
  omega

/-- A day of a year of four digits is in the calendar. -/
lemma inCalendar_of_yearOf {day : Int} {year : Numeral 4} (hyear : yearOf day = year.value) :
    InCalendar day :=
  inCalendar_of_near hyear (by omega)

/-- The days of years of four digits are in the calendar, so that a text denotes the day that its
fields denote. -/
theorem DayText.day?_eq_some_iff {t : DayText} {day : Int} :
    t.day? = some day ↔ t.Denotes day := by
  have hdate : ∀ {y : Numeral 4} {month n : Nat},
      (Date.mk y.value month n).toDay? = some day ↔ Date.ofDay day = ⟨y.value, month, n⟩ := by
    intro y month n
    rw [Date.toDay?_eq_some_iff, and_iff_left_of_imp]
    exact fun h => inCalendar_of_yearOf (congrArg Date.year h)
  cases t with
  | separated separator d => exact hdate
  | compact d => exact hdate
  | week y w n =>
    rw [day?, WeekDate.toDay?_eq_some_iff, Denotes, and_iff_left_of_imp]
    intro h
    refine inCalendar_of_near (congrArg WeekDate.year h) ?_
    simp only [weekday]
    omega
  | monthFirst d => exact hdate
  | month y m => exact hdate
  | ordinal y n =>
    rw [day?, OrdinalDate.toDay?_eq_some_iff, Denotes, and_iff_left_of_imp]
    exact fun h => inCalendar_of_yearOf (congrArg OrdinalDate.year h)
  | year y => exact hdate

/-! ## Readers on texts -/

namespace DayText

/-- The reader of its shape takes a text, whatever follows it. -/
lemma reader_shape (t : DayText) (rest : List Char) :
    t.shape.reader (t.chars ++ rest) = t.day?.map fun day => (day, rest) := by
  cases t with
  | separated separator d =>
    simp [shape, DayShape.reader, calendarDate, chars, DateDigits.chars, day?, DateDigits.date]
  | compact d => simp [shape, DayShape.reader, compactDate, chars, day?, DateDigits.date]
  | week y w n => simp [shape, DayShape.reader, weekDate, chars, day?]
  | monthFirst d => simp [shape, DayShape.reader, monthFirstDate, chars, day?, DateDigits.date]
  | month y m => simp [shape, DayShape.reader, yearMonth, chars, day?]
  | ordinal y n => simp [shape, DayShape.reader, ordinalDate, chars, day?]
  | year y => simp [shape, DayShape.reader, yearAlone, chars, day?]

/-- No other reader takes year, month and day with a sign between them to the end, whatever
follows. -/
lemma all_reader_separated {s : DayShape} {separator : DateSeparator}
    (h : s ≠ .separated separator) (d : DateDigits) (rest : List Char) :
    s.reader.all (d.chars separator ++ rest) = none := by
  cases s with
  | separated other =>
    have hother : separator.char ≠ other.char := by
      cases separator <;> cases other <;> simp_all [DateSeparator.char]
    simp [DayShape.reader, calendarDate, DateDigits.chars, hother]
  | compact =>
    have hblank : isBlank separator.char = false := by cases separator <;> decide
    have hdigit : separator.char.isDigit = false := by cases separator <;> decide
    simp [DayShape.reader, compactDate, DateDigits.chars, hblank, hdigit]
  | week =>
    cases separator <;> simp [DayShape.reader, weekDate, DateDigits.chars, DateSeparator.char]
  | monthFirst => simp [DayShape.reader, monthFirstDate, DateDigits.chars]
  | month =>
    -- of year, month and day the first two are read
    cases separator <;> simp [DayShape.reader, yearMonth, DateDigits.chars, DateSeparator.char]
  | ordinal =>
    cases separator <;> simp [DayShape.reader, ordinalDate, DateDigits.chars, DateSeparator.char]
  | year => simp [DayShape.reader, yearAlone, DateDigits.chars]

/-- No other reader takes year, month and day without signs to the end. -/
lemma all_reader_compact {s : DayShape} (h : s ≠ .compact) (d : DateDigits) :
    s.reader.all (d.year.chars ++ (d.month.chars ++ (d.day.chars ++ []))) = none := by
  cases s with
  | separated separator =>
    have hdigit : separator.char.isDigit = false := by cases separator <;> decide
    simp [-List.append_nil, DayShape.reader, calendarDate, hdigit]
  | compact => exact absurd rfl h
  | week => simp [-List.append_nil, DayShape.reader, weekDate]
  | monthFirst => simp [-List.append_nil, DayShape.reader, monthFirstDate]
  | month => simp [-List.append_nil, DayShape.reader, yearMonth]
  | ordinal => simp [-List.append_nil, DayShape.reader, ordinalDate]
  | year => simp [DayShape.reader, yearAlone]

/-- No other reader takes year, week and day of the week to the end. -/
lemma all_reader_week {s : DayShape} (h : s ≠ .week) (y : Numeral 4) (w : Numeral 2)
    (n : Numeral 1) :
    s.reader.all (y.chars ++ '-' :: 'W' :: (w.chars ++ '-' :: (n.chars ++ []))) = none := by
  cases s with
  | separated separator =>
    cases separator <;> simp [DayShape.reader, calendarDate, DateSeparator.char, isBlank]
  | compact => simp [DayShape.reader, compactDate, isBlank]
  | week => exact absurd rfl h
  | monthFirst => simp [DayShape.reader, monthFirstDate]
  | month => simp [DayShape.reader, yearMonth, digits_of_not_isDigit]
  | ordinal => simp [DayShape.reader, ordinalDate, digits_of_not_isDigit]
  | year => simp [DayShape.reader, yearAlone]

/-- No other reader takes month, day and year to the end. -/
lemma all_reader_monthFirst {s : DayShape} (h : s ≠ .monthFirst) (d : DateDigits) :
    s.reader.all (d.month.chars ++ '/' :: (d.day.chars ++ '/' :: (d.year.chars ++ []))) = none := by
  cases s with
  | separated separator =>
    cases separator with
    | hyphen => simp [DayShape.reader, calendarDate, DateSeparator.char]
    | slash =>
      -- two digits make a year, and two of the year make a day, but two more are left
      simp [-List.append_nil, DayShape.reader, calendarDate, DateSeparator.char]
  | compact => simp [DayShape.reader, compactDate, isBlank]
  | week => simp [DayShape.reader, weekDate]
  | monthFirst => exact absurd rfl h
  | month => simp [DayShape.reader, yearMonth]
  | ordinal => simp [DayShape.reader, ordinalDate]
  | year => simp [DayShape.reader, yearAlone]

/-- No other reader takes year and month to the end. -/
lemma all_reader_month {s : DayShape} (h : s ≠ .month) (y : Numeral 4) (m : Numeral 2) :
    s.reader.all (y.chars ++ '-' :: (m.chars ++ [])) = none := by
  cases s with
  | separated separator =>
    cases separator <;> simp [-List.append_nil, DayShape.reader, calendarDate, DateSeparator.char]
  | compact => simp [DayShape.reader, compactDate, isBlank]
  | week => simp [-List.append_nil, DayShape.reader, weekDate]
  | monthFirst => simp [DayShape.reader, monthFirstDate]
  | month => exact absurd rfl h
  | ordinal => simp [-List.append_nil, DayShape.reader, ordinalDate]
  | year => simp [DayShape.reader, yearAlone]

/-- No other reader takes year and place to the end. -/
lemma all_reader_ordinal {s : DayShape} (h : s ≠ .ordinal) (y : Numeral 4) (n : Numeral 3) :
    s.reader.all (y.chars ++ '-' :: (n.chars ++ [])) = none := by
  cases s with
  | separated separator =>
    cases separator <;> simp [-List.append_nil, DayShape.reader, calendarDate, DateSeparator.char]
  | compact => simp [DayShape.reader, compactDate, isBlank]
  | week => simp [-List.append_nil, DayShape.reader, weekDate]
  | monthFirst => simp [DayShape.reader, monthFirstDate]
  | month =>
    -- two of the three digits make a month, and one is left
    simp [-List.append_nil, DayShape.reader, yearMonth]
  | ordinal => exact absurd rfl h
  | year => simp [DayShape.reader, yearAlone]

/-- No other reader takes a year to the end. -/
lemma all_reader_year {s : DayShape} (h : s ≠ .year) (y : Numeral 4) :
    s.reader.all (y.chars ++ []) = none := by
  cases s with
  | separated separator => simp [-List.append_nil, DayShape.reader, calendarDate]
  | compact => simp [-List.append_nil, DayShape.reader, compactDate]
  | week => simp [-List.append_nil, DayShape.reader, weekDate]
  | monthFirst => simp [-List.append_nil, DayShape.reader, monthFirstDate]
  | month => simp [-List.append_nil, DayShape.reader, yearMonth]
  | ordinal => simp [-List.append_nil, DayShape.reader, ordinalDate]
  | year => exact absurd rfl h

/-- Of the readers only that of its shape takes a text to the end, and it does if the fields denote
a day. -/
theorem all_reader (t : DayText) (s : DayShape) :
    s.reader.all t.chars = if s = t.shape then t.day? else none := by
  split_ifs with h
  · have hread := t.reader_shape []
    rw [List.append_nil] at hread
    simp [h, hread, Option.bind_map]
  · rw [← List.append_nil t.chars]
    cases t with
    | separated separator d => exact all_reader_separated h d []
    | compact d =>
      simp only [chars, List.append_assoc]
      exact all_reader_compact h d
    | week y w n =>
      simp only [chars, List.append_assoc, List.cons_append]
      exact all_reader_week h y w n
    | monthFirst d =>
      simp only [chars, List.append_assoc, List.cons_append]
      exact all_reader_monthFirst h d
    | month y m =>
      simp only [chars, List.append_assoc, List.cons_append]
      exact all_reader_month h y m
    | ordinal y n =>
      simp only [chars, List.append_assoc, List.cons_append]
      exact all_reader_ordinal h y n
    | year y => exact all_reader_year h y

end DayText

namespace DateText

/-- The shapes of days, in the order in which they are tried. -/
def dayShapes : List DayShape :=
  [.separated .hyphen, .compact, .week, .separated .slash, .monthFirst, .month, .ordinal, .year]

/-- The readers of days are those of the shapes. -/
lemma dateShapes_eq : dateShapes = dayShapes.map DayShape.reader := rfl

/-- Every shape is tried. -/
lemma mem_dayShapes (s : DayShape) : s ∈ dayShapes := by
  cases s with
  | separated separator => cases separator <;> decide
  | _ => decide

/-- What is read of a text is the day of its fields. -/
theorem firstOf_dateShapes (t : DayText) : firstOf dateShapes t.chars = t.day? := by
  rw [dateShapes_eq]
  refine firstOf_eq ⟨_, List.mem_map_of_mem (mem_dayShapes t.shape), ?_⟩ ?_
  · rw [t.all_reader, if_pos rfl]
  · rw [List.forall_mem_map]
    intro s _
    rw [t.all_reader]
    split_ifs
    · exact Or.inl rfl
    · exact Or.inr rfl

end DateText

end Almanac
