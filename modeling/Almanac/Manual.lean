import Almanac.Present
import Almanac.Operator

set_option relaxedAutoImplicit false
set_option autoImplicit false

/-!
# The manual

The page that explains the command line. Its lists of words are those that are understood, taken
from where they are defined.

## Main definitions

* `Almanac.helpWords`, `Almanac.asksForHelp` — when the manual is shown.
* `Almanac.manual` — its text.
-/

namespace Almanac

/-- The words that ask for the manual wherever they stand. -/
def helpWords : List String := ["help", "--help", "-help", "-h"]

/-- Whether a list of words asks for the manual. -/
def asksForHelp (words : List String) : Bool :=
  words.any helpWords.contains

/-- Words in one line, with commas between them. -/
def listed (words : List String) : String :=
  ", ".intercalate words

/-- An indented line with a label, filled up to a column of 17, and an explanation. -/
def manualLine (label explanation : String) : String :=
  let fill := String.ofList (List.replicate (17 - label.length) ' ')
  s!"  {label}{fill} {explanation}"

/-- An explanation that goes on in a line of its own. -/
def manualContinuation (explanation : String) : String :=
  manualLine "" explanation

/-- What the operators are called. -/
def operatorLabels : List (String × Operator) :=
  [("add", .sum .forward), ("subtract", .sum .backward),
    ("same instant", .comparison .same), ("after", .comparison .after),
    ("same or after", .comparison .sameOrAfter), ("before", .comparison .before),
    ("same or before", .comparison .sameOrBefore), ("difference", .difference)]

/-- How the program is called, and in which order it computes. -/
def usageLines : List String :=
  ["Usage: datecalc [-v] [--tz <ZONE>] [--json] <value> <op> <value> [<op> <value> ...] " ++
      "[to <format>]",
    "",
    "Evaluates strictly from left to right: `a op b op c` is `(a op b) op c`.",
    ""]

/-- The values that words can denote. -/
def valueLines : List String :=
  ["Values:",
    manualLine "a date" "2024-01-31, 2024-01-31T09:30, 2024-01-31T09:30:00+02:00, 20240131",
    manualContinuation "2024, 2024-01, 2024-032, 2024-W05-3, 2024/01/31",
    manualLine (listed Present.todayWords) "start of the current day",
    manualLine (listed Present.nowWords) "the current instant",
    manualLine (listed Present.tomorrowWords) "start of the next day",
    manualLine (listed Present.yesterdayWords) "start of the previous day",
    manualLine "a duration" "<number><unit>, e.g. 10days, -3d, 1.5h",
    ""]

/-- The words for units. -/
def unitLines : List String :=
  "Units:" :: TimeUnit.all.map (fun u => manualLine u.name (listed u.words.tail)) ++ [""]

/-- The spellings of operators. -/
def operatorLines : List String :=
  "Operators:" :: operatorLabels.map (fun entry => manualLine entry.1 (listed entry.2.spellings)) ++
    [""]

/-- The formats that may stand after the last operator. -/
def formatLines : List String :=
  ["Output format (`to <format>`):",
    manualLine "after + or -" "a date template, e.g. `to YYYY-MM-DD`, `to \"dddd, MMMM Do\"`,",
    manualContinuation "`to [week] W`, or a strftime string such as `to %d/%m/%Y`",
    manualLine "after -- or diff" "the unit the difference is counted in (default: milliseconds)",
    manualLine "after comparisons" "not allowed",
    ""]

/-- The options. -/
def optionLines : List String :=
  ["Options:",
    manualLine "--tz <ZONE>" "evaluation timezone: `local` (default) or an IANA name",
    manualLine "--json" "print the result as JSON",
    manualLine "-v, -vv" "log evaluation steps to stderr",
    manualLine "-V, --version" "print the version",
    ""]

/-- The text of the manual. -/
def manual : String :=
  let helpLine := s!"Help: {listed helpWords}"
  let all := usageLines ++ valueLines ++ unitLines ++ operatorLines ++ formatLines ++ optionLines ++
    [helpLine]
  String.join (all.map (· ++ "\n"))

end Almanac
