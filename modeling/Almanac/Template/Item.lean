import Almanac.Calendar.Names
import Almanac.Calendar.Week
import Almanac.Instant

set_option relaxedAutoImplicit false
set_option autoImplicit false

/-!
# Items of a format

The single things that a date can be asked to show, and how each is written. Not all of them can
be: an offset in a form that is for reading only has no text, nor has what is no specifier.

## Main definitions

* `Almanac.Template.NumberField`, `Almanac.Template.Padding` — numbers and how they are filled up
  to their width.
* `Almanac.Template.Item` — the items.
* `Almanac.Template.Item.write?` — what an item shows of an instant.
* `Almanac.Template.writeAll?` — what the members of a list show, one after the other.
-/

namespace Almanac

namespace Template

/-- What stands before a number that is shorter than its width. -/
inductive Padding
  | zero
  | blank
  | none
  deriving DecidableEq, Repr

/-- The numbers of a date. -/
inductive NumberField
  | year
  | century
  | yearOfCentury
  | weekYear
  | weekYearOfCentury
  | quarter
  | month
  | day
  | ordinal
  /-- Days since Sunday. -/
  | weekday
  /-- Days of the week from Monday, which is 1. -/
  | isoWeekday
  | isoWeek
  /-- Weeks that begin on Sunday; before the first Sunday the week is 0. -/
  | sundayWeek
  /-- Weeks that begin on Monday; before the first Monday the week is 0. -/
  | mondayWeek
  | hour
  | hourOfTwelve
  | minute
  | second
  | nanosecond
  | unixSeconds
  deriving DecidableEq, Repr

/-- The shapes of an offset. -/
inductive OffsetStyle
  /-- Hours and minutes, as in `+0530`. -/
  | compact
  /-- Hours and minutes, as in `+05:30`. -/
  | colon
  /-- Hours, minutes and seconds, as in `+05:30:00`. -/
  | seconds
  /-- Hours, as in `+05`. -/
  | hours
  /-- Hours, minutes, and seconds if there are any. -/
  | exact
  deriving DecidableEq, Repr

/-- The things that a format consists of. -/
inductive Item
  /-- A character of the format that stands for itself. -/
  | literal (c : Char)
  | number (field : NumberField) (padding : Padding)
  | monthName (short : Bool)
  | weekdayName (short : Bool)
  /-- The half of the day, in capitals or not. -/
  | halfDay (capital : Bool)
  /-- The fraction of the second, cut to a number of places, after a point or not. -/
  | fraction (point : Bool) (places : Nat)
  /-- The fraction of the second in the fewest of 3, 6 and 9 places, or nothing. -/
  | exactFraction
  | offset (style : OffsetStyle)
  /-- The whole instant, after RFC 3339. -/
  | stamp
  /-- An offset in a form that is for reading only. -/
  | readOnlyOffset
  /-- What is no specifier. -/
  | invalid
  deriving DecidableEq, Repr

/-! ## Numbers -/

/-- A number about to be written. -/
structure Numeral where
  sign : List Char
  digits : List Char
  /-- The least number of characters, the sign among them. -/
  width : Nat

/-- Writes a number. Zeros stand between the sign and the digits, blanks before the sign. -/
def Numeral.write (n : Numeral) : Padding → List Char
  | .zero => n.sign ++ n.digits.leftpad (n.width - n.sign.length) '0'
  | .blank => (n.sign ++ n.digits).leftpad n.width ' '
  | .none => n.sign ++ n.digits

/-- A number without a sign. -/
def Numeral.plain (width n : Nat) : Numeral :=
  ⟨[], digitsOf n, width⟩

/-- A year, which has a sign outside 0 to 9999. -/
def Numeral.year (y : Int) : Numeral :=
  if 0 ≤ y ∧ y ≤ 9999 then .plain 4 y.natAbs
  else ⟨[if y < 0 then '-' else '+'], digitsOf y.natAbs, 5⟩

/-- The century of a year in two characters. Centuries are counted modulo 256, and the first
character counts the tens on from the digit zero, also beyond nine. -/
def Numeral.century (y : Int) : Numeral :=
  let n := (y / 100 % 256).toNat
  ⟨[], if n < 10 then digitsOf n else Char.ofNat ('0'.toNat + n / 10) :: digitsOf (n % 10), 2⟩

/-- The weeks of the year that have begun on a day, when the week days are counted from
`sinceStart` days before it. -/
def weekOfYear (ordinal sinceStart : Nat) : Nat :=
  (ordinal + 6 - sinceStart) / 7

/-- The number of a field for an instant. -/
def NumberField.numeral (i : Instant) : NumberField → Numeral
  | year => .year i.wall.date.year
  | century => .century i.wall.date.year
  | yearOfCentury => .plain 2 (i.wall.date.year % 100).toNat
  | weekYear => .year (WeekDate.ofDay i.wall.day).year
  | weekYearOfCentury => .plain 2 ((WeekDate.ofDay i.wall.day).year % 100).toNat
  | quarter => .plain 1 ((i.wall.date.month - 1) / 3 + 1)
  | month => .plain 2 i.wall.date.month
  | day => .plain 2 i.wall.date.day
  | ordinal => .plain 3 (OrdinalDate.ofDay i.wall.day).ordinal
  | weekday => .plain 1 ((Almanac.weekday i.wall.day + 1) % 7)
  | isoWeekday => .plain 1 (Almanac.weekday i.wall.day + 1)
  | isoWeek => .plain 2 (WeekDate.ofDay i.wall.day).week
  | sundayWeek =>
    .plain 2 (weekOfYear (OrdinalDate.ofDay i.wall.day).ordinal ((Almanac.weekday i.wall.day + 1) % 7))
  | mondayWeek => .plain 2 (weekOfYear (OrdinalDate.ofDay i.wall.day).ordinal (Almanac.weekday i.wall.day))
  | hour => .plain 2 i.wall.hour
  | hourOfTwelve => .plain 2 ((i.wall.hour + 11) % 12 + 1)
  | minute => .plain 2 i.wall.minute
  | second => .plain 2 i.wall.second
  | nanosecond => .plain 9 i.wall.nanosecond
  | unixSeconds => ⟨if i.utc.secs < 0 then ['-'] else [], digitsOf i.utc.secs.natAbs, 9⟩

/-! ## Offsets -/

/-- Hours, minutes and perhaps seconds of an offset, which are exact. -/
def exactOffset (withSeconds : Bool) (offset : Int) : List Char :=
  let n := offset.natAbs
  offsetSign offset :: zeroPadded 2 (n / 3600) ++ ':' :: zeroPadded 2 (n / 60 % 60) ++
    if withSeconds then ':' :: zeroPadded 2 (n % 60) else []

/-- Writes an offset. -/
def OffsetStyle.write (offset : Int) : OffsetStyle → List Char
  | compact => offsetChars [] offset
  | colon => offsetChars [':'] offset
  | seconds => exactOffset true offset
  | hours => offsetSign offset :: zeroPadded 2 (offset.natAbs / 3600)
  | exact => exactOffset (offset % 60 ≠ 0) offset

/-! ## Items -/

/-- The half of the day. -/
def halfDayName (capital : Bool) (hour : Nat) : List Char :=
  if hour < 12 then if capital then ['A', 'M'] else ['a', 'm']
  else if capital then ['P', 'M'] else ['p', 'm']

/-- A name, shortened or not. -/
def shortened (short : Bool) (name : List Char) : List Char :=
  if short then abbreviated name else name

/-- What an item shows of an instant, if it can be written. -/
def Item.write? (i : Instant) : Item → Option (List Char)
  | literal c => some [c]
  | number field padding => some ((field.numeral i).write padding)
  | monthName short => (monthName? i.wall.date.month).map (shortened short)
  | weekdayName short => (weekdayName? (Almanac.weekday i.wall.day)).map (shortened short)
  | halfDay capital => some (halfDayName capital i.wall.hour)
  | fraction point places =>
    some ((if point then ['.'] else []) ++ (zeroPadded 9 i.wall.nanosecond).take places)
  | exactFraction => some (Reading.fractionChars i.wall.nanosecond)
  | offset style => some (style.write i.offset)
  | stamp => some (i.stamp false)
  | readOnlyOffset | invalid => none

/-! ## Lists -/

/-- The texts of the members of a list, one after the other. One member without a text leaves the
whole list without one. -/
def writeAll? {α : Type} (write? : α → Option (List Char)) : List α → Option (List Char)
  | [] => some []
  | x :: xs => (write? x).bind fun text => (writeAll? write? xs).map (text ++ ·)

section WriteAll

variable {α : Type} (write? : α → Option (List Char))

/-- Nothing to write is no text. -/
@[simp] theorem writeAll?_nil : writeAll? write? [] = some [] := rfl

/-- The text of the first member stands first. -/
@[simp] theorem writeAll?_cons (x : α) (xs : List α) : writeAll? write? (x :: xs) =
    (write? x).bind fun text => (writeAll? write? xs).map (text ++ ·) := rfl

end WriteAll

end Template

end Almanac
