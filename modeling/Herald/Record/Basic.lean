import Herald.Level.Registry
import Herald.Record.Location

/-!
# Log records

A record is built once, with the name its level had at that moment, and is not
changed afterwards. Time comes in as a reading of the clock: the seconds since
the epoch and two renderings of local time.
-/

namespace Herald

/-- A reading of the clock, in seconds since the epoch and as local time. -/
structure Clock where
  seconds : Float
  /-- Local time to the second, `YYYY-MM-DD HH:MM:SS`. -/
  civil : String
  /-- Local time to the millisecond, `YYYY-MM-DD HH:MM:SS,mmm`. -/
  precise : String

/-- One log event. -/
structure Record where
  stamp : Clock
  level : Level
  levelName : String
  message : String
  logger : String
  caller : Location

/-- The record of a call, its level named as the registry names it now. -/
def Record.of (names : Registry) (now : Clock) (level : Level) (message logger : String)
    (caller : Location) : Record :=
  ⟨now, level, level.name names, message, logger, caller⟩

/-- Whether a sink with this threshold takes the record. -/
def Record.passes (r : Record) (threshold : Level) : Bool := threshold ≤ r.level

end Herald
