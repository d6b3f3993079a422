import Almanac.Zone

set_option relaxedAutoImplicit false
set_option autoImplicit false

/-!
# Moving instants

How a duration moves an instant. Years to days move the wall clock and keep the time of day, so
that the elapsed time depends on the calendar and on the zone. Hours to milliseconds are elapsed
time, whatever the wall clock does.

## Main definitions

* `Almanac.Zone.move` — the instant at a duration from another.
-/

namespace Almanac

namespace Zone

/-- The instant whose wall-clock reading is `moved?`. -/
def resolveMoved (z : Zone) (fault : Error) (moved? : Option Reading) : Except Error Instant :=
  match moved? with
  | some r => z.resolve r
  | none => .error fault

/-- The instant at a duration from another, in one direction or the other. It must be in the
calendar. Whether a count of months or days is a count at all is seen before the clock is read. -/
def move (z : Zone) (start : Instant) (direction : Direction) (step : Duration) :
    Except Error Instant :=
  let fault := Error.outOfRange (.move start direction step)
  match step.unit.spanOf? step.magnitude with
  | none => .error fault
  | some (.months n) =>
    if n.natAbs ≤ maxMonths then do
      let wall ← z.wallClock start
      z.resolveMoved fault (wall.addMonths? (direction.sign * n))
    else .error fault
  | some (.days n) =>
    if Fits64 (direction.sign * n) then do
      let wall ← z.wallClock start
      z.resolveMoved fault (wall.addDays? (direction.sign * n))
    else .error fault
  | some (.fixed n) =>
    match (start.utc.elapse (direction.sign * n)).check with
    | some utc => .ok (z.express utc)
    | none => .error fault

end Zone

end Almanac
