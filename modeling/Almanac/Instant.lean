import Almanac.Reading

set_option relaxedAutoImplicit false
set_option autoImplicit false

/-!
# Instants

An instant is a moment, kept as the reading of universal time at it, together with the offset
from universal time of the clock on which it is to be shown. Only the moment counts when instants
are compared.

## Main definitions

* `Almanac.Instant` — the type.
* `Almanac.Instant.wall` — what the clock shows.
* `Almanac.offsetChars` — the written form of an offset.
* `Almanac.Instant.stamp`, `Almanac.Instant.text` — the two written forms of an instant.

## Main results

* `Almanac.Instant.wall_of_offset_zero` — with offset zero the clock shows universal time.
-/

namespace Almanac

/-- A moment and the offset of a clock. -/
structure Instant where
  /-- Universal time. -/
  utc : Reading
  /-- The seconds by which the clock is ahead of universal time. -/
  offset : Int
  deriving DecidableEq, Repr

/-- The hours and minutes of an offset, rounded to the nearest minute. -/
def roundedOffset (offset : Int) : Nat × Nat :=
  let minutes := (offset.natAbs + 30) / 60
  (minutes / 60, minutes % 60)

/-- The sign of an offset. -/
def offsetSign (offset : Int) : Char :=
  if offset < 0 then '-' else '+'

/-- An offset in hours and minutes, with a given text between them. -/
def offsetChars (separator : List Char) (offset : Int) : List Char :=
  let (hours, minutes) := roundedOffset offset
  offsetSign offset :: zeroPadded 2 hours ++ separator ++ zeroPadded 2 minutes

namespace Instant

/-- What the clock shows. -/
def wall (i : Instant) : Reading :=
  i.utc.shift i.offset

/-- The milliseconds since 1970-01-01 00:00:00 of universal time. A leap second counts on into
the next second. -/
def unixMillis (i : Instant) : Int :=
  i.utc.secs * 1000 + (i.utc.nanos / 1000000 : Nat)

/-- The written form with date, time, fraction and offset, after RFC 3339. With `zulu` the
offset zero is written `Z`. -/
def stamp (i : Instant) (zulu : Bool) : List Char :=
  i.wall.chars 'T' ++ if zulu ∧ i.offset = 0 then ['Z'] else offsetChars [':'] i.offset

/-- The written form in messages. -/
def stampText (i : Instant) : String :=
  String.ofList (i.stamp false)

/-- The form in which an instant is shown, to the second. -/
def chars (i : Instant) : List Char :=
  Reading.dateChars i.wall.day ++ 'T' :: i.wall.timeChars ++ offsetChars [':'] i.offset

/-- The form in which an instant is shown, to the second. -/
def text (i : Instant) : String :=
  String.ofList i.chars

/-- A clock with offset zero shows universal time. -/
theorem wall_of_offset_zero (r : Reading) : wall ⟨r, 0⟩ = r := by
  simp [wall, Reading.shift]

end Instant

end Almanac
