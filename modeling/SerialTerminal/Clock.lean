import SerialTerminal.Act
import SerialTerminal.Calendar.Civil

/-!
# Clock

A clock gives its readings one after another and stays at the last one. It counts how often it was
read. A reading is a number of seconds since 1970, and the clock hangs in a time zone.

This is the clock of `SPEC_FULL.md` §3 and §4.3.
-/

namespace SerialTerminal

/-- A clock: the readings that it will give, how many it gave, and the zone that it is in. -/
structure Clock where
  upcoming : List Binary64
  calls : Nat
  zone : Calendar.Zone

namespace Clock

/-- A clock that was not read yet. -/
def ofReadings (readings : List Binary64) (zone : Calendar.Zone := .utc) : Clock :=
  ⟨readings, 0, zone⟩

/-- The next reading. -/
def reading (clock : Clock) : Binary64 := clock.upcoming.headD .zero

/-- The clock after it was read. -/
def advance (clock : Clock) : Clock :=
  { clock with
    upcoming := match clock.upcoming with
      | _ :: next :: rest => next :: rest
      | last => last
    calls := clock.calls + 1 }

/-- Reads the clock. -/
def now : Act Clock Binary64 := fun clock => ⟨.ok clock.reading, clock.advance, []⟩

end Clock

end SerialTerminal
