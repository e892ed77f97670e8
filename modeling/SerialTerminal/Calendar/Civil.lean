import SerialTerminal.Binary64

/-!
# Civil time

Seconds since the start of 1970 broken down into the fields of the Gregorian calendar, without leap
seconds and in the time of a zone. A clock reading is rounded down to whole seconds first.

A zone is known by what its clocks show at each moment, which the system tells. Stamps in a format
are written in this time (`SPEC_FULL.md` §4.3).
-/

namespace SerialTerminal.Calendar

/-- How far the clocks of a zone are ahead of universal time, in seconds, and the name of the time
that they show. -/
structure Offset where
  seconds : Int
  name : List Char
deriving DecidableEq, Repr

/-- A time zone: its offset at each second since the start of 1970. -/
structure Zone where
  offsetAt : Int → Offset

/-- Universal time. -/
def Zone.utc : Zone := ⟨fun _ => ⟨0, ['U', 'T', 'C']⟩⟩

/-- A point in time as a calendar and a clock show it. Days of the week count from Sunday, and both
they and the days of the year count from zero. -/
structure Civil where
  epochSeconds : Int
  offset : Offset
  year : Int
  month : Nat
  day : Nat
  hour : Nat
  minute : Nat
  second : Nat
  weekday : Nat
  yearDay : Nat
deriving DecidableEq, Repr

/-- Why a clock reading has no civil time. -/
inductive RangeError where
  | notANumber
  | beyondSeconds
  | beyondYears
deriving DecidableEq, Repr

/-- The wording of a reading without a civil time. -/
def RangeError.message : RangeError → String
  | .notANumber => "Invalid value NaN (not a number)"
  | .beyondSeconds => "timestamp out of range for platform time_t"
  | .beyondYears => "[Errno 75] Value too large for defined data type"

/-- Holds of the years with 366 days. -/
def isLeapYear (year : Int) : Bool :=
  year % 4 = 0 && (year % 100 ≠ 0 || year % 400 = 0)

/-- Number of days in a year. -/
def daysInYear (year : Int) : Nat := if isLeapYear year then 366 else 365

/-- The civil time at a number of seconds after the start of 1970. Years are counted from March, so
that a leap day ends its year, and grouped by the 400 years after which the calendar repeats. -/
def Civil.ofSeconds (seconds : Int) (offset : Offset) : Civil :=
  let shown := seconds + offset.seconds
  let days := shown / 86400
  let clock := (shown % 86400).toNat
  let era := (days + 719468) / 146097
  let dayOfEra := ((days + 719468) % 146097).toNat
  let yearOfEra :=
    (dayOfEra - dayOfEra / 1460 + dayOfEra / 36524 - dayOfEra / 146096) / 365
  let marchDay := dayOfEra - (365 * yearOfEra + yearOfEra / 4 - yearOfEra / 100)
  let marchMonth := (5 * marchDay + 2) / 153
  let month := if marchMonth < 10 then marchMonth + 3 else marchMonth - 9
  let year := era * 400 + yearOfEra + (if month ≤ 2 then 1 else 0)
  { epochSeconds := seconds
    offset := offset
    year := year
    month := month
    day := marchDay - (153 * marchMonth + 2) / 5 + 1
    hour := clock / 3600
    minute := clock / 60 % 60
    second := clock % 60
    weekday := ((days + 4) % 7).toNat
    yearDay :=
      if month ≤ 2 then marchDay - 306 else marchDay + 59 + (if isLeapYear year then 1 else 0) }

/-- The civil time of a clock reading in a zone. Seconds have to fit 63 bits and a sign, and years
counted from 1900 have to fit 31 bits and a sign. -/
def Civil.ofReading (reading : Binary64) (zone : Zone) : Except RangeError Civil :=
  match reading with
  | .notANumber => .error .notANumber
  | .infinite _ => .error .beyondSeconds
  | .finite .. =>
    let seconds := reading.floor?.getD 0
    if seconds < -bound64 ∨ bound64 < seconds then .error .beyondSeconds
    else
      let civil := Civil.ofSeconds seconds (zone.offsetAt seconds)
      if civil.year - 1900 < -bound32 ∨ bound32 ≤ civil.year - 1900 then .error .beyondYears
      else .ok civil

end SerialTerminal.Calendar
