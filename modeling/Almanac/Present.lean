import Almanac.Zone

set_option relaxedAutoImplicit false
set_option autoImplicit false

/-!
# The present

The instants that have a word of their own, its anchors: now, and the midnights with which today,
tomorrow and yesterday begin. They are fixed once for an expression, so that a word means the same
wherever it stands.

## Main definitions

* `Almanac.Present` — a zone and its anchors.
* `Almanac.Present.ofNow` — the anchors at a moment.
* `Almanac.Present.ofWord?` — the anchor of a word.
-/

namespace Almanac

/-- A zone and the instants that words denote in it. -/
structure Present where
  zone : Zone
  now : Instant
  today : Instant
  tomorrow : Instant
  yesterday : Instant
  deriving DecidableEq, Repr

/-- The instant with which a day begins in a zone. -/
def Zone.startOfDay (z : Zone) (day : Int) : Except Error Instant :=
  z.resolve (Reading.ofDay day 0)

namespace Present

/-- The anchors at a moment of universal time. The day before and the day after must be in the
calendar. -/
def ofNow (zone : Zone) (utc : Reading) : Except Error Present := do
  let now := zone.express utc
  let wall ← zone.wallClock now
  let day := wall.day
  if ¬ InCalendar (day + 1) ∨ ¬ InCalendar (day - 1) then
    throw (.outOfRange (.neighbour day))
  let today ← zone.startOfDay day
  let tomorrow ← zone.startOfDay (day + 1)
  let yesterday ← zone.startOfDay (day - 1)
  return ⟨zone, now, today, tomorrow, yesterday⟩

/-- The words for today. -/
def todayWords : List String := ["today", "td"]

/-- The words for now. -/
def nowWords : List String := ["now"]

/-- The words for tomorrow. -/
def tomorrowWords : List String := ["tomorrow"]

/-- The words for yesterday. -/
def yesterdayWords : List String := ["yesterday"]

/-- The anchor of a word. -/
def ofWord? (p : Present) (word : String) : Option Instant :=
  if word ∈ todayWords then some p.today
  else if word ∈ nowWords then some p.now
  else if word ∈ tomorrowWords then some p.tomorrow
  else if word ∈ yesterdayWords then some p.yesterday
  else none

end Present

end Almanac
