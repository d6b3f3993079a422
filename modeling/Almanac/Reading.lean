import Almanac.Calendar.Date
import Almanac.Text.Number

set_option relaxedAutoImplicit false
set_option autoImplicit false

/-!
# Clock readings

A reading is what a calendar and a clock show together, to the nanosecond. Whose clock it is, the
reading does not say: the same type serves for universal time and for the wall clock of a zone.

A leap second is the second that a minute may have after its sixtieth. It has no number of its
own; a reading in it counts on the nanoseconds of the second before, from 10^9.

## Main definitions

* `Almanac.Reading` — the type, ordered by second and nanosecond.
* `Almanac.Reading.day`, `Almanac.Reading.date`, `Almanac.Reading.hour`,
  `Almanac.Reading.minute`, `Almanac.Reading.second` — the fields of a reading.
* `Almanac.Reading.addMonths?`, `Almanac.Reading.addDays?` — moving in the calendar, the time of
  day unchanged.
* `Almanac.Reading.elapse`, `Almanac.Reading.nanosSince`, `Almanac.Reading.total` — elapsed time,
  and the count of it.
* `Almanac.Reading.chars`, `Almanac.Reading.text` — the written form.

## Main results

* `Almanac.Reading.nanosSince_of_not_leap` — between readings outside leap seconds the elapsed
  time is the difference of their counts.
-/

namespace Almanac

/-- A date and a time of day. -/
structure Reading where
  /-- The whole seconds since 1970-01-01 00:00:00, leap seconds not counted. -/
  secs : Int
  /-- The nanoseconds since then; 10^9 and more are in a leap second. -/
  nanos : Nat
  /-- A leap second is one second long. -/
  nanos_lt : nanos < 2000000000 := by decide
  deriving DecidableEq, Repr

namespace Reading

/-! ## Order -/

instance : LE Reading where
  le a b := a.secs < b.secs ∨ (a.secs = b.secs ∧ a.nanos ≤ b.nanos)

instance : LT Reading where
  lt a b := a.secs < b.secs ∨ (a.secs = b.secs ∧ a.nanos < b.nanos)

instance (a b : Reading) : Decidable (a ≤ b) :=
  inferInstanceAs (Decidable (_ ∨ _))

instance (a b : Reading) : Decidable (a < b) :=
  inferInstanceAs (Decidable (_ ∨ _))

/-! ## Fields -/

/-- The reading of a clock on a day, so many seconds after midnight. -/
def ofDay (day : Int) (seconds : Nat) : Reading :=
  ⟨day * 86400 + seconds, 0, by decide⟩

/-- The number of the day. -/
def day (r : Reading) : Int := r.secs / 86400

/-- The seconds since midnight. -/
def secondOfDay (r : Reading) : Nat := (r.secs % 86400).toNat

/-- The date. -/
def date (r : Reading) : Date := Date.ofDay r.day

/-- The hour, from 0 to 23. -/
def hour (r : Reading) : Nat := r.secondOfDay / 3600

/-- The minute, from 0 to 59. -/
def minute (r : Reading) : Nat := r.secondOfDay / 60 % 60

/-- Whether the reading is in a leap second. -/
def IsLeap (r : Reading) : Prop := 1000000000 ≤ r.nanos

instance (r : Reading) : Decidable r.IsLeap :=
  inferInstanceAs (Decidable (_ ≤ _))

/-- The second as a clock shows it: a leap second has the number after its predecessor's. -/
def second (r : Reading) : Nat :=
  r.secondOfDay % 60 + if r.IsLeap then 1 else 0

/-- The nanoseconds of the second, leap second or not. -/
def nanosecond (r : Reading) : Nat := r.nanos % 1000000000

/-- The reading is on a day of the calendar. -/
def InRange (r : Reading) : Prop := InCalendar r.day

instance (r : Reading) : Decidable r.InRange :=
  inferInstanceAs (Decidable (InCalendar _))

/-- A reading, if it is on a day of the calendar. -/
def check (r : Reading) : Option Reading :=
  if r.InRange then some r else none

/-! ## Moving -/

/-- The same clock, set forward by whole seconds. -/
def shift (r : Reading) (seconds : Int) : Reading :=
  { r with secs := r.secs + seconds }

/-- The same time of day on another day. -/
def onDay (r : Reading) (day : Int) : Reading :=
  { r with secs := day * 86400 + r.secs % 86400 }

/-- The same time of day so many days later. -/
def addDays? (r : Reading) (count : Int) : Option Reading :=
  (r.onDay (r.day + count)).check

/-- The months since January of year 0. -/
def monthIndex (r : Reading) : Int :=
  r.date.year * 12 + (r.date.month - 1 : Nat)

/-- The same time of day so many months later, on the same day of the month, or on the last one
if the month is too short. -/
def addMonths? (r : Reading) (count : Int) : Option Reading :=
  let index := r.monthIndex + count
  let year := index / 12
  let month := (index % 12).toNat + 1
  let moved := Date.mk year month (min r.date.day (monthLength year month))
  moved.toDay?.map r.onDay

/-! ## Elapsed time -/

/-- The reading with a count of nanoseconds that may be negative or make a second. -/
def carry (secs nanos : Int) : Reading :=
  ⟨secs + nanos / 1000000000, (nanos % 1000000000).toNat, by omega⟩

/-- The reading after so many elapsed milliseconds. From inside a leap second, a step that does
not leave it changes the nanoseconds alone; a step that does starts at the second before, or for
a step back by a second or more, at the second after. -/
def elapse (r : Reading) (millis : Int) : Reading :=
  let secs := millis.tdiv 1000
  let nanos := millis.tmod 1000 * 1000000
  if r.nanos < 1000000000 then carry (r.secs + secs) (r.nanos + nanos)
  else if left : 0 < secs ∨ (0 < nanos ∧ 2000000000 ≤ r.nanos + nanos) then
    carry (r.secs + secs) (r.nanos - 1000000000 + nanos)
  else if secs < 0 then carry (r.secs + 1 + secs) (r.nanos - 1000000000 + nanos)
  else ⟨r.secs, (r.nanos + nanos).toNat, by have := r.nanos_lt; omega⟩

/-- The nanoseconds from one reading to another. A leap second between their times of day counts,
if the one with the earlier time of day is in it. -/
def nanosSince (later earlier : Reading) : Int :=
  let leap :=
    if earlier.secondOfDay < later.secondOfDay ∧ earlier.IsLeap then 1
    else if later.secondOfDay < earlier.secondOfDay ∧ later.IsLeap then -1
    else 0
  (later.secs - earlier.secs + leap) * 1000000000 + (later.nanos - earlier.nanos)

/-- The nanoseconds since 1970-01-01 00:00:00. -/
def total (r : Reading) : Int := r.secs * 1000000000 + r.nanos

/-- Between readings outside leap seconds the elapsed time is the difference of their counts. -/
theorem nanosSince_of_not_leap {a b : Reading} (ha : ¬ a.IsLeap) (hb : ¬ b.IsLeap) :
    b.nanosSince a = b.total - a.total := by
  simp only [nanosSince, total, ha, hb, and_false, if_false]
  omega

/-! ## Written form -/

/-- A date: year, month and day, with hyphens. -/
def dateChars (day : Int) : List Char :=
  let d := Date.ofDay day
  signedYear d.year ++ '-' :: zeroPadded 2 d.month ++ '-' :: zeroPadded 2 d.day

/-- A time of day to the second. -/
def timeChars (r : Reading) : List Char :=
  zeroPadded 2 r.hour ++ ':' :: zeroPadded 2 r.minute ++ ':' :: zeroPadded 2 r.second

/-- A fraction of a second in 3, 6 or 9 digits, the fewest that are exact, or nothing. -/
def fractionChars (nanos : Nat) : List Char :=
  if nanos = 0 then []
  else if nanos % 1000000 = 0 then '.' :: zeroPadded 3 (nanos / 1000000)
  else if nanos % 1000 = 0 then '.' :: zeroPadded 6 (nanos / 1000)
  else '.' :: zeroPadded 9 nanos

/-- A reading, with a given character between date and time. -/
def chars (r : Reading) (separator : Char) : List Char :=
  dateChars r.day ++ separator :: r.timeChars ++ fractionChars r.nanosecond

/-- The written form of a reading, with a blank between date and time. -/
def text (r : Reading) : String :=
  String.ofList (r.chars ' ')

end Reading

end Almanac
