import SerialTerminal.Calendar.TimeFormat

/-!
# Line stamps

The text in front of a line of timestamped output (`SPEC_FULL.md` §4.3). A stamp is written in a
time format, as the time since a start or as the time since 1970. The last two are seconds and
milliseconds, rounded down.
-/

namespace SerialTerminal

/-- Why a clock reading has no stamp. -/
inductive StampError where
  | number (cause : Binary64.IntegerError)
  | range (cause : Calendar.RangeError)
  | yearBeyondFormat
  | nulInFormat
deriving DecidableEq, Repr

/-- The wording of a stamp that cannot be written. -/
def StampError.message : StampError → String
  | .number cause => cause.message
  | .range cause => cause.message
  | .yearBeyondFormat => "signed integer is greater than maximum"
  | .nulInFormat => "embedded null character"

/-- What a stamp shows. -/
inductive LineStamp where
  | formatted (format : String) (zone : Calendar.Zone)
  | sinceStart (start : Binary64)
  | sinceEpoch

namespace LineStamp

/-- Seconds as whole milliseconds. -/
def milliseconds (seconds : Binary64) : Except Binary64.IntegerError Int :=
  (seconds.scale 1000).truncate

/-- Seconds split into whole seconds and the milliseconds after them (`split_ms`). -/
def split (seconds : Binary64) : Except Binary64.IntegerError (Int × Int) :=
  (milliseconds seconds).map fun ms => (ms / 1000, ms % 1000)

/-- Milliseconds written as seconds with three decimal places in at least `width` places. -/
def ofMilliseconds (width : Nat) (ms : Int) : List Char :=
  Numeral.spacePadded width (ms / 1000) ++ '.' :: Numeral.zeroPadded 3 (ms % 1000) ++ [':', ' ']

/-- The stamp that shows the time from a start to now (`elapsed_prefix`). A clock that went back
shows zero. -/
def elapsed (now start : Binary64) : Except StampError (List Char) :=
  ((milliseconds (now.sub start).atLeastZero).mapError StampError.number).map (ofMilliseconds 4)

/-- The stamp that shows the time since 1970 (`epoch_prefix`). -/
def epoch (now : Binary64) : Except StampError (List Char) :=
  ((milliseconds now).mapError StampError.number).map (ofMilliseconds 8)

/-- The stamp in a time format, in the time of a zone, followed by a bar (`strftime_prefix`). -/
def ofFormat (format : List Char) (now : Binary64) (zone : Calendar.Zone := .utc) :
    Except StampError (List Char) :=
  match Calendar.Civil.ofReading now zone with
  | .error cause => .error (.range cause)
  | .ok civil =>
    if bound32 ≤ civil.year then .error .yearBeyondFormat
    else if '\x00' ∈ format then .error .nulInFormat
    else .ok (Calendar.TimeFormat.expand format civil ++ ['|'])

/-- The text of a stamp at a clock reading. -/
def text (stamp : LineStamp) (now : Binary64) : Except StampError (List Char) :=
  match stamp with
  | .formatted format zone => ofFormat format.toList now zone
  | .sinceStart start => elapsed now start
  | .sinceEpoch => epoch now

end LineStamp

end SerialTerminal
