import Almanac.Operator
import Almanac.Value

set_option relaxedAutoImplicit false
set_option autoImplicit false

/-!
# Errors

Why an expression has no value. Each cause is a constructor that holds what the message needs;
the words are in `Almanac.Error.message`.

## Main definitions

* `Almanac.RangeFault` — the ways to leave the calendar.
* `Almanac.FormatFault` — the faults of a template.
* `Almanac.Error` — the causes.
* `Almanac.Error.message` — the wording.
-/

namespace Almanac

/-- The ways to leave the calendar, or the range of a magnitude. -/
inductive RangeFault
  /-- An instant moved by a duration. -/
  | move (start : Instant) (direction : Direction) (step : Duration)
  /-- A sum of durations. -/
  | sum (left : Duration) (direction : Direction) (right : Duration)
  /-- A reading that a zone's clock never shows. -/
  | missingReading (reading : Reading)
  /-- A day without a day before or after it. -/
  | neighbour (day : Int)
  /-- A count of months that is too large to move by. -/
  | months (count : Nat)
  deriving DecidableEq, Repr

/-- The faults of a template, or of its use. -/
inductive FormatFault
  /-- A percent sign that begins no specifier. -/
  | badSpecifier (template : String)
  /-- An opening bracket with no closing one after it. -/
  | unclosedBracket (template : String)
  /-- A template for dates, for something else. -/
  | notForDates (template : String) (found : Kind)
  deriving DecidableEq, Repr

/-- The causes for which an expression has no value. -/
inductive Error
  /-- There is no operator with two operands. -/
  | missingOperation
  /-- The expression ends in an operator. -/
  | trailingOperator (spelling : String)
  /-- The expression ends in the word that announces a format. -/
  | missingFormat
  /-- A word denotes neither a date nor a duration. -/
  | unrecognizedValue (word : String)
  /-- A word that should be an operator is none. -/
  | unknownOperator (found : String)
  /-- A sum has a date on its right. -/
  | dateOnRight (word : String)
  /-- A word that should be a unit is none. -/
  | unknownUnit (found : String)
  /-- A format is asked for the result of a comparison. -/
  | formatOnComparison (format : String)
  /-- An operator does not take such an operand. -/
  | typeMismatch (operator : Operator) (found : Kind)
  /-- A sum of durations in two units. -/
  | incompatibleUnits (left right : TimeUnit)
  /-- A template is at fault. -/
  | invalidFormat (fault : FormatFault)
  /-- There is no zone of that name. -/
  | unknownZone (name : String)
  /-- A result is out of range. -/
  | outOfRange (fault : RangeFault)
  /-- A template passes its check and cannot be written. What has no text and yet passes is the
  specifier with which offsets are read only. -/
  | readOnlySpecifier (template : String)
  /-- A clock shows a day outside the calendar, where nothing can be moved or counted. -/
  | offCalendar (shown : Instant)
  deriving DecidableEq, Repr

/-- The spelling of a direction in a sum. -/
def Direction.spelling (d : Direction) : String :=
  (Operator.sum d).spelling

/-- What a range fault says was to be done. -/
def RangeFault.text : RangeFault → String
  | move start direction step => s!"{start.stampText} {direction.spelling} {step.text}"
  | sum left direction right => s!"{left.text} {direction.spelling} {right.text}"
  | missingReading reading => s!"nonexistent local time {reading.text}"
  | neighbour day => s!"day after or before {String.ofList (Reading.dateChars day)}"
  | months count => s!"{count} months"

/-- What is wrong with a template. -/
def FormatFault.text : FormatFault → String
  | badSpecifier template => s!"'{template}' is not a valid strftime string"
  | unclosedBracket template => s!"unclosed '[' in '{template}'"
  | notForDates template found => s!"'{template}' cannot format {found.text}"

/-- What an operator takes. -/
def Operator.expectation : Operator → String
  | sum _ => "a date or a duration on the left"
  | comparison _ => "two dates"
  | difference => "two dates"

/-- The wording of an error. -/
def Error.message : Error → String
  | missingOperation => "provide a valid operation"
  | trailingOperator spelling => s!"last parameter can't be an operator: '{spelling}'"
  | missingFormat => "missing format after 'to'"
  | unrecognizedValue word => s!"unrecognized value: {word}"
  | unknownOperator found =>
    let allowed := ", ".intercalate Operator.allSpellings
    s!"invalid operation '{found}' - allowed values: {allowed}"
  | dateOnRight word =>
    s!"value on the right of a sum/diff operation cannot be a date: '{word}'"
  | unknownUnit found =>
    let allowed := ", ".intercalate TimeUnit.allWords
    s!"invalid unit '{found}' - allowed values: {allowed}"
  | formatOnComparison format => s!"a comparison result cannot be formatted: 'to {format}'"
  | typeMismatch operator found =>
    s!"'{operator.spelling}' expects {operator.expectation}, found {found.text}"
  | incompatibleUnits left right => s!"cannot combine durations in {left.name} and {right.name}"
  | invalidFormat fault => s!"Invalid format: {fault.text}"
  | unknownZone name => s!"Invalid timezone: '{name}'"
  | outOfRange fault => s!"date out of range: {fault.text}"
  | readOnlySpecifier template => s!"'{template}' holds a specifier that cannot be written"
  | offCalendar shown => s!"the clock at {shown.stampText} is outside the calendar"

end Almanac
