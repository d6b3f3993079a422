import Almanac.Zone

set_option relaxedAutoImplicit false
set_option autoImplicit false

/-!
# Differences of instants

How many of a unit fit between two instants, whichever comes first. Months and years are counted
on the wall clock, month by month of whatever length; days and weeks are counted on the wall
clock, each of 24 hours; the smaller units count elapsed time.

## Main definitions

* `Almanac.searchMonths`, `Almanac.monthsBetween` — the months between two readings.
* `Almanac.Zone.countUpTo`, `Almanac.Zone.countBetween` — the count of a unit between two
  instants.
-/

namespace Almanac

/-- The outcome of a search for a number of months. -/
structure MonthSearch where
  /-- The number that was found. -/
  months : Nat
  /-- How many numbers were tried. -/
  tries : Nat
  deriving DecidableEq, Repr

/-- Searches down from a number for one by which `earlier` can be moved without passing `later`.
Before the search `tries` numbers have been tried. -/
def searchMonths (earlier later : Reading) (tries : Nat) : Nat → Except Error MonthSearch
  | 0 => .ok ⟨0, tries⟩
  | n + 1 =>
    if maxMonths < n + 1 then .error (.outOfRange (.months (n + 1)))
    else if (earlier.addMonths? (n + 1 : Nat)).any (· ≤ later) then .ok ⟨n + 1, tries + 1⟩
    else searchMonths earlier later (tries + 1) n

/-- The whole months between two readings. The search starts at the number by which their months
are apart, and so has to give back one at most. -/
def monthsBetween (earlier later : Reading) : Except Error MonthSearch :=
  searchMonths earlier later 0 (later.monthIndex - earlier.monthIndex).toNat

/-- The nanoseconds of a day. -/
def nanosPerDay : Int := 86400000000000

/-- The nanoseconds of a millisecond. -/
def nanosPerMilli : Int := 1000000

namespace Zone

/-- How many of a unit fit from an instant to a later one. When clocks were set back in between,
the wall-clock reading of the later instant may be the smaller one; then no day fits. Clocks that
count months or days must show days of the calendar. -/
def countUpTo (z : Zone) (earlier later : Instant) (unit : TimeUnit) : Except Error Int :=
  match unit.span with
  | .months per => do
    let first ← z.wallClock earlier
    let last ← z.wallClock later
    let found ← monthsBetween first last
    return (found.months : Int).tdiv per
  | .days per => do
    let last ← z.wallClock later
    let first ← z.wallClock earlier
    return ((max (last.nanosSince first) 0).tdiv nanosPerDay).tdiv per
  | .fixed per =>
    .ok (((later.utc.nanosSince earlier.utc).tdiv nanosPerMilli).tdiv per)

/-- How many of a unit fit between two instants, whichever comes first. -/
def countBetween (z : Zone) (a b : Instant) (unit : TimeUnit) : Except Error Int :=
  if a.utc ≤ b.utc then z.countUpTo a b unit else z.countUpTo b a unit

end Zone

end Almanac
