import Almanac.Calendar.Week
import Almanac.DateText.Field

set_option relaxedAutoImplicit false
set_option autoImplicit false

/-!
# Shapes of dates

The shapes in which dates and times are written on a command line, down to a year alone. Each is a
reader. A text may fit more than one shape as far as its punctuation goes, so the shapes are tried
in an order, and the first that makes sense of the whole text is taken.

## Main definitions

* `Almanac.DateText.dateShapes` — days.
* `Almanac.DateText.wallShapes`, `Almanac.DateText.dateHour?` — days with a time.
* `Almanac.DateText.offsetShapes` — days with a time and an offset.
-/

namespace Almanac

namespace DateText

open Reader

/-! ## Days -/

/-- Year, month and day with a separator, as in `2024-01-31`. -/
def calendarDate (separator : Char) : Reader Int := do
  let y ← year
  char separator
  let month ← number 2
  char separator
  let day ← number 2
  require (Date.mk y month day).toDay?

/-- Year, month and day without separators, as in `20240131`. -/
def compactDate : Reader Int := do
  let y ← year
  let month ← number 2
  let day ← number 2
  require (Date.mk y month day).toDay?

/-- Year, week and day of the week, as in `2024-W05-3`. -/
def weekDate : Reader Int := do
  let y ← year
  char '-'
  char 'W'
  let week ← number 2
  char '-'
  let day ← number 1
  require (WeekDate.mk y week day).toDay?

/-- Month, day and year, as in `01/31/2024`. -/
def monthFirstDate : Reader Int := do
  let month ← number 2
  char '/'
  let day ← number 2
  char '/'
  let y ← year
  require (Date.mk y month day).toDay?

/-- Four digits for the year and two for the month, of which the first day is meant. -/
def yearMonth : Reader Int := do
  let y ← digits 4 4
  char '-'
  let month ← digits 2 2
  require (Date.mk y month 1).toDay?

/-- Four digits for the year and three for the place of the day in it. -/
def ordinalDate : Reader Int := do
  let y ← digits 4 4
  char '-'
  let ordinal ← digits 3 3
  require (OrdinalDate.mk y ordinal).toDay?

/-- Four digits for the year, of which the first day is meant. -/
def yearAlone : Reader Int := do
  let y ← digits 4 4
  require (Date.mk y 1 1).toDay?

/-- The shapes of a day. -/
def dateShapes : List (Reader Int) :=
  [calendarDate '-', compactDate, weekDate, calendarDate '/', monthFirstDate, yearMonth,
    ordinalDate, yearAlone]

/-! ## Times of day -/

/-- Hour and minute, as in `09:30`. -/
def hourMinute : Reader Reading := do
  let hour ← number 2
  char ':'
  let minute ← number 2
  require (clockTime? hour minute 0 0)

/-- Hour, minute and second, perhaps with a fraction, as in `09:30:15.25`. -/
def hourMinuteSecond : Reader Reading := do
  let hour ← number 2
  char ':'
  let minute ← number 2
  char ':'
  let second ← number 2
  let nanos ← fraction
  require (clockTime? hour minute second nanos)

/-- A day and a time of day. -/
def dateTime (date : Reader Int) (separator : Reader Unit) (time : Reader Reading) :
    Reader Reading := do
  let day ← date
  separator
  let t ← time
  return t.onDay day

/-- A day, a time of day and an offset, as universal time. -/
def offsetDateTime (separator : Reader Unit) (time : Reader Reading) : Reader Reading := do
  let r ← dateTime (calendarDate '-') separator time
  let offset ← looseOffset
  require (universal? r offset)

/-- The shapes of a day with a time and an offset. -/
def offsetShapes : List (Reader Reading) :=
  [offsetDateTime (char 'T') hourMinuteSecond, offsetDateTime blanks hourMinuteSecond,
    offsetDateTime (char 'T') hourMinute, offsetDateTime blanks hourMinute]

/-- The shapes of a day with a time and no offset. -/
def wallShapes : List (Reader Reading) :=
  [dateTime (calendarDate '-') (char 'T') hourMinuteSecond,
    dateTime (calendarDate '-') blanks hourMinuteSecond,
    dateTime (calendarDate '-') (char 'T') hourMinute,
    dateTime (calendarDate '-') blanks hourMinute,
    dateTime (calendarDate '/') blanks hourMinuteSecond,
    dateTime (calendarDate '/') blanks hourMinute]

/-- The characters that may stand between a day and an hour alone. -/
def isHourSeparator (c : Char) : Bool :=
  c == 'T' || c == ' '

/-- A day and two digits for the hour, as in `2024-01-31T09`. What stands before the first
separator is the day. -/
def dateHour? (cs : List Char) : Option Reading :=
  match cs.dropWhile fun c => !isHourSeparator c with
  | [] => none
  | _ :: hourText => do
    let day ← (calendarDate '-').all (cs.takeWhile fun c => !isHourSeparator c)
    let hour ← (digits 2 2).all hourText
    let t ← clockTime? hour 0 0 0
    return t.onDay day

end DateText

end Almanac
