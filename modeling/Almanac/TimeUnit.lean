import Almanac.Magnitude

set_option relaxedAutoImplicit false
set_option autoImplicit false

/-!
# Units of time

The eight units in which durations are written and differences are counted, the words for them,
and what they stand for: calendar months, calendar days, or a fixed number of milliseconds.

## Main definitions

* `Almanac.TimeUnit` — the units.
* `Almanac.TimeUnit.words`, `Almanac.TimeUnit.ofWord?` — the words for a unit, and the unit
  of a word.
* `Almanac.Span`, `Almanac.TimeUnit.span` — what one of a unit stands for.
* `Almanac.TimeUnit.spanOf?` — what a magnitude of a unit stands for.

## Main results

* `Almanac.TimeUnit.ofWord?_name` — the name of a unit is a word for it.
-/

namespace Almanac

/-- The units of time, largest first. -/
inductive TimeUnit
  | years
  | months
  | weeks
  | days
  | hours
  | minutes
  | seconds
  | milliseconds
  deriving DecidableEq, Repr

/-- A quantity of time, in the terms in which it moves an instant. -/
inductive Span
  /-- Months of the calendar, of whatever length. -/
  | months (count : Int)
  /-- Days of the calendar, each at the same time of day. -/
  | days (count : Int)
  /-- Elapsed milliseconds. -/
  | fixed (millis : Int)
  deriving DecidableEq, Repr

namespace TimeUnit

/-- The units, in the order in which they are listed. -/
def all : List TimeUnit :=
  [years, months, weeks, days, hours, minutes, seconds, milliseconds]

/-- The words for a unit, its name first. No two units share a word. -/
def words : TimeUnit → List String
  | years => ["years", "year", "y"]
  | months => ["months", "month", "M"]
  | weeks => ["weeks", "week", "W", "w"]
  | days => ["days", "day", "D", "d"]
  | hours => ["hours", "hour", "h", "H"]
  | minutes => ["minutes", "minute", "m", "min"]
  | seconds => ["seconds", "second", "s", "S"]
  | milliseconds => ["milliseconds", "millisecond", "ms", "MS", "milli", "millis"]

/-- The name of a unit, which is the word that is written for it. -/
def name (u : TimeUnit) : String :=
  u.words.headD ""

/-- Every word for a unit, in the order in which they are listed. -/
def allWords : List String :=
  all.flatMap words

/-- The unit of a word. Case matters: `M` is a month and `m` a minute. -/
def ofWord? (word : String) : Option TimeUnit :=
  all.find? fun u => u.words.contains word

/-- The length of a unit in milliseconds, where it always has the same one. -/
def lengthMillis? : TimeUnit → Option Int
  | years | months => none
  | weeks => some 604800000
  | days => some 86400000
  | hours => some 3600000
  | minutes => some 60000
  | seconds => some 1000
  | milliseconds => some 1

/-- What one of a unit stands for. Days and weeks follow the calendar, although they have a
usual length. -/
def span (u : TimeUnit) : Span :=
  match u with
  | years => .months 12
  | months => .months 1
  | weeks => .days 7
  | days => .days 1
  | hours | minutes | seconds | milliseconds => .fixed (u.lengthMillis?.getD 1)

/-- What a magnitude of a unit stands for, rounded to a whole number of months, days or
milliseconds. -/
def spanOf? (u : TimeUnit) (m : Magnitude) : Option Span :=
  match u.span with
  | .months per => (m.roundedProduct? per).map .months
  | .days per => (m.roundedProduct? per).map .days
  | .fixed per => (m.roundedProduct? per).map .fixed

/-- The name of a unit is a word for it. -/
@[simp] theorem ofWord?_name (u : TimeUnit) : ofWord? u.name = some u := by
  cases u <;> decide

end TimeUnit

end Almanac
