import Almanac.Calendar.Names
import Almanac.Calendar.Week
import Almanac.DateText.Field

set_option relaxedAutoImplicit false
set_option autoImplicit false

/-!
# Mail dates

The shape of RFC 2822, which stands at the head of letters, as in
`Mon, 1 Jan 2024 09:00:00 +0000 (noon somewhere)`. It is loose about blanks and letter case, has
years of two and three digits, zones by name, and comments at the end.

## Main definitions

* `Almanac.DateText.mail?` — reads such a date as universal time.
* `Almanac.DateText.mailYear`, `Almanac.DateText.mailOffset` — its years and zones.
* `Almanac.DateText.onlyComments` — what may follow it.
-/

namespace Almanac

namespace DateText

open Reader

/-- The place in a list of the name of which a text begins with the first three letters, in any
case. -/
def abbreviation (names : List String) : Reader Nat := fun cs =>
  let word := (cs.take 3).map Char.toLower
  let place := names.findIdx fun name => (abbreviated name.toList).map Char.toLower == word
  if place < names.length then some (place, cs.drop 3) else none

/-- The week day with which a date may begin, and the comma after it. -/
def statedWeekday : Reader (Option Nat) := fun cs =>
  match abbreviation weekdayNames cs with
  | some (w, ',' :: rest) => some (some w, rest)
  | some _ => none
  | none => some (none, cs)

/-- The year that digits denote: two digits are a year from 1950 to 2049, three count from
1900. -/
def mailYearOf (ds : List Char) : Nat :=
  let n := Nat.ofDigitChars 10 ds 0
  match ds.length with
  | 2 => if n < 50 then n + 2000 else n + 1900
  | 3 => n + 1900
  | _ => n

/-- A year of two or more digits. -/
def mailYear : Reader Nat := do
  let ds ← allDigits
  require (if ds.length < 2 then none else some (mailYearOf ds))

/-- A colon and two digits for the second, or nothing. -/
def optionalSecond : Reader Nat := fun cs =>
  match skipBlanks cs with
  | ':' :: rest => digits 2 2 rest
  | _ => some (0, cs)

/-- The hours of the zones that have a name. Of the single letters, which stand for military
zones but have been used with either sign, all but J count as zero. -/
def zoneHours? (name : List Char) : Option Int :=
  let name := String.ofList (name.map Char.toLower)
  if name ∈ ["gmt", "ut", "z"] then some 0
  else if name ∈ ["edt"] then some (-4)
  else if name ∈ ["est", "cdt"] then some (-5)
  else if name ∈ ["cst", "mdt"] then some (-6)
  else if name ∈ ["mst", "pdt"] then some (-7)
  else if name ∈ ["pst"] then some (-8)
  else if name.length = 1 ∧ name ≠ "j" then some 0
  else none

/-- A zone by name, or an offset in four digits. -/
def mailOffset : Reader Int := fun cs =>
  let name := cs.takeWhile Char.isAlpha
  if name.isEmpty then signedOffset false (return ()) cs
  else (zoneHours? name).map fun hours => (hours * 3600, cs.dropWhile Char.isAlpha)

/-- A text of comments in brackets, `depth` of which are open. Comments nest, and a backslash
takes the meaning from the character after it. -/
def onlyComments : Nat → List Char → Bool
  | 0, [] => true
  | 0, c :: cs => if c = '(' then onlyComments 1 cs else isBlank c && onlyComments 0 cs
  | _ + 1, [] => false
  | depth + 1, '\\' :: _ :: cs => onlyComments (depth + 1) cs
  | depth + 1, c :: cs =>
    if c = '(' then onlyComments (depth + 2) cs
    else if c = ')' then onlyComments depth cs
    else onlyComments (depth + 1) cs

/-- A date after RFC 2822 without its comments, as universal time. A stated week day must be that
of the date. -/
def mailDate : Reader Reading := do
  blanks
  let stated ← statedWeekday
  blanks
  let day ← digits 1 2
  someBlanks
  let month ← abbreviation monthNames
  someBlanks
  let y ← mailYear
  someBlanks
  let hour ← digits 2 2
  blanks
  char ':'
  blanks
  let minute ← digits 2 2
  let second ← optionalSecond
  someBlanks
  let offset ← mailOffset
  let day ← require (Date.mk y (month + 1) day).toDay?
  let t ← require (clockTime? hour minute second 0)
  if stated.all (· = weekday day) then require (universal? (t.onDay day) offset)
  else failure

/-- A date after RFC 2822, as universal time. -/
def mail? (cs : List Char) : Option Reading :=
  match mailDate cs with
  | some (r, rest) => if onlyComments 0 rest then some r else none
  | none => none

end DateText

end Almanac
