import Almanac.Error

set_option relaxedAutoImplicit false
set_option autoImplicit false

/-!
# Time zones

A zone is the history of the offset of its clocks from universal time. Between two transitions
the offset stays the same; such a stretch is a period. Every moment lies in one period, so
universal time always has a wall-clock reading. The other way round a reading may fall into two
periods, when clocks were set back, or into none, when they were set forward.

## Main definitions

* `Almanac.Zone`, `Almanac.Transition` — the history of a zone.
* `Almanac.Zone.offsetAt`, `Almanac.Zone.express`, `Almanac.Zone.reading`,
  `Almanac.Zone.wallClock` — from universal time to the wall clock.
* `Almanac.Zone.offsetReading?`, `Almanac.Zone.firstShowing?`, `Almanac.Zone.resolve` — from the
  wall clock to universal time.

## Main results

* `Almanac.Zone.express_utc` — being shown in a zone does not change the moment.
* `Almanac.Zone.wallClock_of_inRange`, `Almanac.Zone.wallClock_of_not_inRange` — when a wall clock
  can be read.
-/

namespace Almanac

/-- A change of the offset. -/
structure Transition where
  /-- The second of universal time from which the offset holds. -/
  second : Int
  /-- The seconds by which clocks are ahead of universal time from then on. -/
  offset : Int
  deriving DecidableEq, Repr

/-- A zone and the history of its offset. -/
structure Zone where
  name : String
  /-- The offset before the first transition. -/
  initial : Int
  /-- The transitions, in the order of time. -/
  transitions : List Transition
  deriving DecidableEq, Repr

namespace Zone

/-! ## From universal time to the wall clock -/

/-- The offset at a second of universal time, given the offset before the transitions. -/
def offsetFrom (second : Int) (offset : Int) : List Transition → Int
  | [] => offset
  | t :: later => if t.second ≤ second then offsetFrom second t.offset later else offset

/-- The offset at a second of universal time. -/
def offsetAt (z : Zone) (second : Int) : Int :=
  offsetFrom second z.initial z.transitions

/-- A moment, on the clock of a zone. -/
def express (z : Zone) (utc : Reading) : Instant :=
  ⟨utc, z.offsetAt utc.secs⟩

/-- What the clock of a zone shows at a moment. -/
def reading (z : Zone) (i : Instant) : Reading :=
  (z.express i.utc).wall

/-- What the clock of a zone shows at a moment, if that is a day of the calendar. Near its ends a
clock may be past them while universal time is not. -/
def wallClock (z : Zone) (i : Instant) : Except Error Reading :=
  match (z.reading i).check with
  | some r => .ok r
  | none => .error (.offCalendar (z.express i.utc))

/-- A clock in the calendar can be read. -/
theorem wallClock_of_inRange {z : Zone} {i : Instant} (h : (z.reading i).InRange) :
    z.wallClock i = .ok (z.reading i) := by
  simp only [wallClock, Reading.check, if_pos h]

/-- A clock outside the calendar cannot be read. -/
theorem wallClock_of_not_inRange {z : Zone} {i : Instant} (h : ¬ (z.reading i).InRange) :
    z.wallClock i = .error (.offCalendar (z.express i.utc)) := by
  simp only [wallClock, Reading.check, if_neg h]

/-- Being shown in a zone does not change the moment. -/
@[simp] theorem express_utc (z : Zone) (utc : Reading) : (z.express utc).utc = utc := rfl

/-! ## From the wall clock to universal time -/

/-- The offset of the first period in which clocks show a given second, among the period that
begins at `since` with `offset` and those that the transitions begin. -/
def offsetReadingFrom (wall : Int) (since : Option Int) (offset : Int) :
    List Transition → Option Int
  | [] => if since.all (· ≤ wall - offset) then some offset else none
  | t :: later =>
    if since.all (· ≤ wall - offset) ∧ wall - offset < t.second then some offset
    else offsetReadingFrom wall (some t.second) t.offset later

/-- The offset of the first period in which the clocks of a zone show a given second. -/
def offsetReading? (z : Zone) (wall : Int) : Option Int :=
  offsetReadingFrom wall none z.initial z.transitions

/-- The first moment at which the clocks of a zone show a reading. -/
def firstShowing? (z : Zone) (r : Reading) : Option Instant := do
  let offset ← z.offsetReading? r.secs
  let utc ← (r.shift (-offset)).check
  return ⟨utc, offset⟩

/-- One hour in milliseconds, by which most clocks are set forward. -/
def gapMillis : Int := 3600000

/-- The first moment at which the clocks of a zone show a reading. A reading that they skip is
read as one hour later. -/
def resolve (z : Zone) (r : Reading) : Except Error Instant :=
  let skipped := (r.elapse gapMillis).check.bind z.firstShowing?
  match (z.firstShowing? r).or skipped with
  | some i => .ok i
  | none => .error (.outOfRange (.missingReading r))

end Zone

end Almanac
