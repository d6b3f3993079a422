import Almanac.CommandLine
import Std.Time.DateTime.Timestamp

set_option relaxedAutoImplicit false
set_option autoImplicit false

/-!
# The program

Reads the clock, asks for the answer and writes it.

## Main definitions

* `Almanac.currentTime` — universal time, from the clock of the machine.
* `main` — the program.
-/

namespace Almanac

/-- Universal time, from the clock of the machine. -/
def currentTime : IO Reading := do
  let since := (← Std.Time.Timestamp.now).toDurationSinceUnixEpoch
  return .carry since.second.val since.nano.val

end Almanac

/-- The program. -/
def main (args : List String) : IO UInt32 := do
  let outcome := Almanac.answer (← Almanac.currentTime) args
  IO.print outcome.output
  IO.eprint outcome.errors
  return outcome.code.toUInt32
