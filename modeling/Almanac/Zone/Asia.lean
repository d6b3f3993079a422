import Almanac.Zone

set_option relaxedAutoImplicit false
set_option autoImplicit false

/-!
# Zones of Africa and Asia

The offsets of the zones as the time zone database (2025b) has them.

## Main definitions

* `Almanac.Zone.monrovia` — Africa/Monrovia.
* `Almanac.Zone.tokyo` — Asia/Tokyo.
* `Almanac.Zone.kolkata` — Asia/Kolkata.
* `Almanac.Zone.kathmandu` — Asia/Kathmandu.
-/

namespace Almanac

namespace Zone

/-- The clocks of Africa/Monrovia. -/
def monrovia : Zone where
  name := "Africa/Monrovia"
  initial := -2588
  transitions := [
    ⟨-1604359012, -2670⟩, ⟨63593070, 0⟩]

/-- The clocks of Asia/Tokyo. -/
def tokyo : Zone where
  name := "Asia/Tokyo"
  initial := 33539
  transitions := [
    ⟨-2587712400, 32400⟩, ⟨-683802000, 36000⟩, ⟨-672310800, 32400⟩, ⟨-654771600, 36000⟩,
    ⟨-640861200, 32400⟩, ⟨-620298000, 36000⟩, ⟨-609411600, 32400⟩, ⟨-588848400, 36000⟩,
    ⟨-577962000, 32400⟩]

/-- The clocks of Asia/Kolkata. -/
def kolkata : Zone where
  name := "Asia/Kolkata"
  initial := 21208
  transitions := [
    ⟨-3645237208, 21200⟩, ⟨-3155694800, 19270⟩, ⟨-2019705670, 19800⟩, ⟨-891581400, 23400⟩,
    ⟨-872058600, 19800⟩, ⟨-862637400, 23400⟩, ⟨-764145000, 19800⟩]

/-- The clocks of Asia/Kathmandu. -/
def kathmandu : Zone where
  name := "Asia/Kathmandu"
  initial := 20476
  transitions := [
    ⟨-1577943676, 19800⟩, ⟨504901800, 20700⟩]

end Zone

end Almanac
