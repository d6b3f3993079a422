import Almanac.Zone.America
import Almanac.Zone.Europe
import Almanac.Zone.Asia
import Almanac.Zone.Pacific
import Almanac.Zone.Antarctica

set_option relaxedAutoImplicit false
set_option autoImplicit false

/-!
# Names of zones

The zones that can be asked for by name. Of the names of the time zone database sixteen are listed;
any other is answered as one that does not exist, also if the database has it.

## Main definitions

* `Almanac.Zone.utc`, `Almanac.Zone.host` — universal time, and the zone of the machine.
* `Almanac.Zone.named` — the zones with a name.
* `Almanac.Zone.ofName` — the zone of a name.

## Main results

* `Almanac.Zone.ofName_utc` — universal time has a name.
-/

namespace Almanac

namespace Zone

/-- Universal time. -/
def utc : Zone := ⟨"UTC", 0, []⟩

/-- Twelve hours behind universal time. In this family of names the sign says how far universal
time is ahead. -/
def twelveBehind : Zone := ⟨"Etc/GMT+12", -43200, []⟩

/-- New York, under its older name. -/
def usEastern : Zone := { newYork with name := "US/Eastern" }

/-- The zone of the machine, which keeps universal time. -/
def host : Zone := ⟨"local", 0, []⟩

/-- The zones with a name: the sixteen names of the time zone database for which tables are kept
here. The database has more. -/
def named : List Zone :=
  [utc, newYork, stJohns, saoPaulo, london, paris, monrovia, tokyo, kolkata, kathmandu, lordHowe,
    apia, kiritimati, troll, twelveBehind, usEastern]

/-- The zone of a name. Case matters, except in the name of the machine's zone. A name that is not
among the listed ones is unknown here, although the time zone database may have it. -/
def ofName (name : String) : Except Error Zone :=
  if name.toList.map Char.toLower = host.name.toList then .ok host
  else
    match named.find? fun z => z.name == name with
    | some z => .ok z
    | none => .error (.unknownZone name)

/-- Universal time has a name. -/
theorem ofName_utc : ofName "UTC" = .ok utc := by
  rfl

end Zone

end Almanac
