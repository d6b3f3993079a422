import Almanac.Template.Item

set_option relaxedAutoImplicit false
set_option autoImplicit false

/-!
# Percent directives

Formats in which a percent sign begins a specifier, as in `%d/%m/%Y`. A format is read one
character at a time; what has been read of a specifier is the stage of the reading.

## Main definitions

* `Almanac.Template.directive` — the items of a specifier of one letter.
* `Almanac.Template.Stage`, `Almanac.Template.step` — the reading of one character.
* `Almanac.Template.scan` — the items of a format.

## Main results

* `Almanac.Template.scanFrom_append` — formats are read piece by piece.
-/

namespace Almanac

namespace Template

/-- The number of a specifier, with the padding that it has unless another is asked for. -/
def numberDirective? : Char → Option (NumberField × Padding)
  | 'Y' => some (.year, .zero)
  | 'C' => some (.century, .zero)
  | 'y' => some (.yearOfCentury, .zero)
  | 'G' => some (.weekYear, .zero)
  | 'g' => some (.weekYearOfCentury, .zero)
  | 'q' => some (.quarter, .none)
  | 'm' => some (.month, .zero)
  | 'd' => some (.day, .zero)
  | 'e' => some (.day, .blank)
  | 'j' => some (.ordinal, .zero)
  | 'w' => some (.weekday, .none)
  | 'u' => some (.isoWeekday, .none)
  | 'V' => some (.isoWeek, .zero)
  | 'U' => some (.sundayWeek, .zero)
  | 'W' => some (.mondayWeek, .zero)
  | 'H' => some (.hour, .zero)
  | 'k' => some (.hour, .blank)
  | 'I' => some (.hourOfTwelve, .zero)
  | 'l' => some (.hourOfTwelve, .blank)
  | 'M' => some (.minute, .zero)
  | 'S' => some (.second, .zero)
  | 'f' => some (.nanosecond, .zero)
  | 's' => some (.unixSeconds, .none)
  | _ => none

/-- A number, filled up with zeros. -/
def padded (field : NumberField) : Item := .number field .zero

/-- Hour and minute. -/
def hourMinuteItems : List Item := [padded .hour, .literal ':', padded .minute]

/-- Hour, minute and second. -/
def timeItems : List Item := hourMinuteItems ++ [.literal ':', padded .second]

/-- The items of a specifier of one letter that is not a number. -/
def otherDirective? : Char → Option (List Item)
  | 'b' | 'h' => some [.monthName true]
  | 'B' => some [.monthName false]
  | 'a' => some [.weekdayName true]
  | 'A' => some [.weekdayName false]
  | 'p' => some [.halfDay true]
  | 'P' => some [.halfDay false]
  | 'z' => some [.offset .compact]
  | 'Z' => some [.offset .exact]
  | '+' => some [.stamp]
  | '%' => some [.literal '%']
  | 't' => some [.literal '\t']
  | 'n' => some [.literal '\n']
  | 'D' | 'x' =>
    some [padded .month, .literal '/', padded .day, .literal '/', padded .yearOfCentury]
  | 'F' => some [padded .year, .literal '-', padded .month, .literal '-', padded .day]
  | 'v' =>
    some [.number .day .blank, .literal '-', .monthName true, .literal '-', padded .year]
  | 'R' => some hourMinuteItems
  | 'T' | 'X' => some timeItems
  | 'r' =>
    some [padded .hourOfTwelve, .literal ':', padded .minute, .literal ':', padded .second,
      .literal ' ', .halfDay true]
  | 'c' =>
    some ([.weekdayName true, .literal ' ', .monthName true, .literal ' ',
      .number .day .blank, .literal ' '] ++ timeItems ++ [.literal ' ', padded .year])
  | _ => none

/-- The items of a specifier of one letter. -/
def directive (c : Char) : List Item :=
  match numberDirective? c with
  | some (field, padding) => [.number field padding]
  | none => (otherDirective? c).getD [.invalid]

/-- The item of a specifier with a padding of its own. Only numbers have one. -/
def paddedDirective (padding : Padding) (c : Char) : Item :=
  match numberDirective? c with
  | some (field, _) => .number field padding
  | none => .invalid

/-- What has been read of a specifier. -/
inductive Stage
  /-- Nothing, outside a specifier. -/
  | text
  /-- The percent sign. -/
  | percent
  /-- A percent sign and a padding. -/
  | padding (p : Padding)
  /-- A percent sign and a number sign. -/
  | numberSign
  /-- A percent sign and so many colons. -/
  | colons (count : Nat)
  /-- A percent sign and a point. -/
  | point
  /-- A percent sign, a point or none, and a number of places. -/
  | places (point : Bool) (count : Nat)
  deriving DecidableEq, Repr

/-- The items of a specifier that ends here. -/
def finished (items : List Item) : Stage × List Item := (.text, items)

/-- The reading of one character: the stage after it and the items that it completes. -/
def step : Stage → Char → Stage × List Item
  | .text, '%' => (.percent, [])
  | .text, c => finished [.literal c]
  | .percent, '-' => (.padding .none, [])
  | .percent, '0' => (.padding .zero, [])
  | .percent, '_' => (.padding .blank, [])
  | .percent, '#' => (.numberSign, [])
  | .percent, ':' => (.colons 1, [])
  | .percent, '.' => (.point, [])
  | .percent, '3' => (.places false 3, [])
  | .percent, '6' => (.places false 6, [])
  | .percent, '9' => (.places false 9, [])
  | .percent, c => finished (directive c)
  | .padding p, c => finished [paddedDirective p c]
  | .numberSign, 'z' => finished [.readOnlyOffset]
  | .colons 1, 'z' => finished [.offset .colon]
  | .colons 2, 'z' => finished [.offset .seconds]
  | .colons 3, 'z' => finished [.offset .hours]
  | .colons 1, ':' => (.colons 2, [])
  | .colons 2, ':' => (.colons 3, [])
  | .point, 'f' => finished [.exactFraction]
  | .point, '3' => (.places true 3, [])
  | .point, '6' => (.places true 6, [])
  | .point, '9' => (.places true 9, [])
  | .places point count, 'f' => finished [.fraction point count]
  | _, _ => finished [.invalid]

/-- The stage after a text. -/
def stageAfter (stage : Stage) (cs : List Char) : Stage :=
  cs.foldl (fun s c => (step s c).1) stage

/-- The items of a text that goes on from a stage. A specifier that the end cuts off is none. -/
def scanFrom : Stage → List Char → List Item
  | .text, [] => []
  | _, [] => [.invalid]
  | stage, c :: cs => (step stage c).2 ++ scanFrom (step stage c).1 cs

/-- The items of a format. -/
def scan (cs : List Char) : List Item :=
  scanFrom .text cs

/-- Formats are read piece by piece: a piece that leaves no specifier open may be read alone. -/
theorem scanFrom_append {stage : Stage} {cs : List Char} (h : stageAfter stage cs = .text)
    (rest : List Char) : scanFrom stage (cs ++ rest) = scanFrom stage cs ++ scan rest := by
  induction cs generalizing stage with
  | nil =>
    obtain rfl : stage = .text := h
    rfl
  | cons c cs ih =>
    have hnext : stageAfter (step stage c).1 cs = .text := h
    simp [scanFrom, ih hnext]

end Template

end Almanac
