import Almanac.DateText.Field

set_option relaxedAutoImplicit false
set_option autoImplicit false

/-!
# Internet dates

The strict shape of RFC 3339, in which every field has a fixed width and the offset is written
out, as in `2024-01-31T09:30:00.5+02:00`.

## Main definitions

* `Almanac.DateText.internet` — reads such a date as universal time.
-/

namespace Almanac

namespace DateText

open Reader

/-- The characters that may stand between date and time. -/
def isTimeSeparator (c : Char) : Bool :=
  c == 'T' || c == 't' || c == ' '

/-- The letter Z, or a sign, two digits, a colon and two digits. -/
def strictOffset : Reader Int :=
  zuluOr (signedOffset true (char ':'))

/-- A date after RFC 3339, as universal time. -/
def internet : Reader Reading := do
  let y ← digits 4 4
  char '-'
  let month ← digits 2 2
  char '-'
  let day ← digits 2 2
  let _ ← oneOf isTimeSeparator
  let hour ← digits 2 2
  char ':'
  let minute ← digits 2 2
  char ':'
  let second ← digits 2 2
  let nanos ← fraction
  let offset ← strictOffset
  let day ← require (Date.mk y month day).toDay?
  let t ← require (clockTime? hour minute second nanos)
  require (universal? (t.onDay day) offset)

end DateText

end Almanac
