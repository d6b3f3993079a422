import Almanac.TimeUnit

set_option relaxedAutoImplicit false
set_option autoImplicit false

/-!
# Durations

A duration is a magnitude of a unit, written as one word: `10days`, `-3d`, `1.5h`. A unit alone
is one of it.

## Main definitions

* `Almanac.Duration` — the type.
* `Almanac.Duration.ofChars?`, `Almanac.Duration.parse?` — reading.
* `Almanac.Duration.chars`, `Almanac.Duration.text` — writing, with the name of the unit.
-/

namespace Almanac

/-- A magnitude of a unit of time. -/
structure Duration where
  /-- How many. -/
  magnitude : Magnitude
  /-- Of what. -/
  unit : TimeUnit
  deriving DecidableEq, Repr

namespace Duration

/-- Reads a duration: the first letter begins the word for the unit, and what stands before it
is the magnitude, which is one when nothing does. -/
def ofChars? (cs : List Char) : Option Duration := do
  let amount := cs.takeWhile fun c => !c.isAlpha
  let unit ← TimeUnit.ofWord? (String.ofList (cs.dropWhile fun c => !c.isAlpha))
  let magnitude ← if amount.isEmpty then some Magnitude.one else Magnitude.ofChars? amount
  return ⟨magnitude, unit⟩

/-- Reads a word as a duration. -/
def parse? (word : String) : Option Duration :=
  ofChars? word.toList

/-- The shortest decimal and the name of the unit. -/
def chars (d : Duration) : List Char :=
  d.magnitude.chars ++ d.unit.name.toList

/-- The written form of a duration. -/
def text (d : Duration) : String :=
  String.ofList d.chars

end Duration

end Almanac
