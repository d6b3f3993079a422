import Almanac.DateText.Internet
import Almanac.DateText.Mail
import Almanac.DateText.Shape
import Almanac.Zone

set_option relaxedAutoImplicit false
set_option autoImplicit false

/-!
# Dates in text

What instant a text denotes. A text with an offset denotes a moment wherever it is read; a text
without one is what the wall clock of a zone shows, and without a time it is the midnight with
which a day begins there.

## Main definitions

* `Almanac.DateText.offsetText?` — the moment of a text with an offset.
* `Almanac.DateText.wallText?`, `Almanac.DateText.dateText?` — the reading of a text without one.
* `Almanac.Zone.instantOf?` — the instant of a text in a zone.
-/

namespace Almanac

namespace DateText

/-- The moment of a text that carries its own offset. -/
def offsetText? (cs : List Char) : Option Reading :=
  (internet.all cs).or ((mail? cs).or (Reader.firstOf offsetShapes cs))

/-- The reading of a text with a time and no offset. -/
def wallText? (cs : List Char) : Option Reading :=
  (Reader.firstOf wallShapes cs).or (dateHour? cs)

/-- The reading at midnight of a text without a time. -/
def dateText? (cs : List Char) : Option Reading :=
  (Reader.firstOf dateShapes cs).map fun day => Reading.ofDay day 0

end DateText

open DateText in
/-- The instant that a text denotes in a zone. Blanks around the text do not matter. -/
def Zone.instantOf? (z : Zone) (text : String) : Option Instant :=
  let cs := trim text.toList
  let resolved := fun r => (z.resolve r).toOption
  ((offsetText? cs).map z.express).or
    (((wallText? cs).bind resolved).or ((dateText? cs).bind resolved))

end Almanac
