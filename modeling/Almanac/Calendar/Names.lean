set_option relaxedAutoImplicit false
set_option autoImplicit false

/-!
# Names of months and week days

English names, which are shortened to three letters.

## Main definitions

* `Almanac.monthNames`, `Almanac.weekdayNames` — the names, from January and from Monday.
* `Almanac.monthName?`, `Almanac.weekdayName?` — one of them.
* `Almanac.abbreviated` — the first three letters of a name.
-/

namespace Almanac

/-- The names of the months, from January. -/
def monthNames : List String :=
  ["January", "February", "March", "April", "May", "June", "July", "August", "September",
    "October", "November", "December"]

/-- The names of the week days, from Monday. -/
def weekdayNames : List String :=
  ["Monday", "Tuesday", "Wednesday", "Thursday", "Friday", "Saturday", "Sunday"]

/-- The name of a month, which is one from 1 to 12. -/
def monthName? : Nat → Option (List Char)
  | 0 => none
  | place + 1 => monthNames[place]?.map String.toList

/-- The name of the week day so many days after Monday, which are less than seven. -/
def weekdayName? (weekday : Nat) : Option (List Char) :=
  weekdayNames[weekday]?.map String.toList

/-- A name, shortened to three letters. -/
def abbreviated (name : List Char) : List Char :=
  name.take 3

end Almanac
