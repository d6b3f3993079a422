import Almanac.Reading
import Almanac.Text.Reader

set_option relaxedAutoImplicit false
set_option autoImplicit false

/-!
# Fields of dates in text

Readers for the parts of which written dates consist. A time of day is read as a reading of day 0,
to be moved to its day.

## Main definitions

* `Almanac.DateText.number`, `Almanac.DateText.year` — numbers with blanks before them.
* `Almanac.DateText.clockTime?` — the time of day of an hour, a minute and a second.
* `Almanac.DateText.fraction` — a fraction of a second.
* `Almanac.DateText.signedOffset`, `Almanac.DateText.looseOffset` — offsets.
* `Almanac.DateText.universal?` — universal time of a reading under an offset.
-/

namespace Almanac

namespace DateText

open Reader

/-- A number of at most `most` digits, after any blanks. -/
def number (most : Nat) : Reader Nat := do
  blanks
  digits 1 most

/-- A year, after any blanks: up to four digits, or a sign and any number of digits. -/
def year : Reader Int := fun cs =>
  match skipBlanks cs with
  | '-' :: rest => (allDigits rest).map fun (ds, rest) => (-(Nat.ofDigitChars 10 ds 0 : Int), rest)
  | '+' :: rest => (allDigits rest).map fun (ds, rest) => ((Nat.ofDigitChars 10 ds 0 : Int), rest)
  | rest => (digits 1 4 rest).map fun (n, rest) => ((n : Int), rest)

/-- The time of day of a clock, if it can show one. Second 60 is a leap second, which may end any
minute. -/
def clockTime? (hour minute second nanos : Nat) : Option Reading :=
  if h : hour < 24 ∧ minute < 60 ∧ second ≤ 60 ∧ nanos < 1000000000 then
    let secs := hour * 3600 + minute * 60
    if second = 60 then some ⟨secs + 59, nanos + 1000000000, by omega⟩
    else some ⟨secs + second, nanos, by omega⟩
  else none

/-- The nanoseconds that the digits after a point denote. Digits after the ninth are cut off. -/
def nanosOf (ds : List Char) : Nat :=
  Nat.ofDigitChars 10 ((ds.take 9).rightpad 9 '0') 0

/-- A fraction of a second in nanoseconds: a point and one or more digits, or nothing. -/
def fraction : Reader Nat
  | '.' :: rest => (allDigits rest).map fun (ds, rest) => (nanosOf ds, rest)
  | rest => some (0, rest)

/-- A sign, with which an offset begins. The minus sign of typography is one only where `wide`
allows it. -/
def sign (wide : Bool) : Reader Int
  | '+' :: rest => some (1, rest)
  | '-' :: rest => some (-1, rest)
  | c :: rest => if wide ∧ c = '\u2212' then some (-1, rest) else none
  | [] => none

/-- The seconds of an offset in hours and minutes. -/
def offsetSeconds (sign : Int) (hours minutes : Nat) : Int :=
  sign * (hours * 3600 + minutes * 60 : Nat)

/-- Two digits for a number of minutes. -/
def offsetMinutes : Reader Nat := do
  let minutes ← digits 2 2
  require (if minutes < 60 then some minutes else none)

/-- An offset in two digits for the hours and two for the minutes, with `between` between them. -/
def signedOffset (wide : Bool) (between : Reader Unit) : Reader Int := do
  let s ← sign wide
  let hours ← digits 2 2
  between
  let minutes ← offsetMinutes
  return offsetSeconds s hours minutes

/-- The letter that stands for offset zero. -/
def isZulu (c : Char) : Bool :=
  c == 'Z' || c == 'z'

/-- The letter Z, or an offset in digits. -/
def zuluOr (digital : Reader Int) : Reader Int
  | [] => none
  | c :: rest => if isZulu c then some (0, rest) else digital (c :: rest)

/-- Any colons and blanks. -/
def looseSeparator : Reader Unit := fun cs =>
  some ((), cs.dropWhile fun c => c == ':' || isBlank c)

/-- The minutes of an offset, or nothing at the end of the text. -/
def optionalMinutes : Reader Nat
  | [] => some (0, [])
  | cs => offsetMinutes cs

/-- A sign, two digits for the hours, and after any colons and blanks two digits for the minutes,
which may be missing at the end of the text. -/
def looseDigits : Reader Int := do
  let s ← sign true
  let hours ← digits 2 2
  looseSeparator
  let minutes ← optionalMinutes
  return offsetSeconds s hours minutes

/-- An offset as people write it, after any blanks. -/
def looseOffset : Reader Int := do
  blanks
  zuluOr looseDigits

/-- Universal time when a clock with an offset shows a reading. The offset is less than a day. -/
def universal? (r : Reading) (offset : Int) : Option Reading :=
  if offset.natAbs < 86400 then (r.shift (-offset)).check else none

end DateText

end Almanac
