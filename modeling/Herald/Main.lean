import Herald.Demo
import Herald.Record.Time
import Std.Time.Zoned
import Std.Time.Format

/-!
# The program

Reads the clock, the arguments and the environment, and prints what the
walkthrough leaves behind.
-/

namespace Herald

/-- The variables that the program looks at. -/
def variableNames : List String :=
  ["TIDINGS_LOG_LEVEL", "TIDINGS_REMOTE_LOGGING", "TIDINGS_REMOTE_TOPIC", "TIDINGS_UID",
   "TIDINGS_REMOTE_QUEUE", "TIDINGS_TRACING_FILTER", "TIDINGS_JSON_LOGS", Console.Filter.override]

/-- The environment as it is now. -/
def readEnvironment : IO Environment := do
  let bindings ← variableNames.mapM fun name => return (name, ← IO.getEnv name)
  return fun key => (bindings.lookup key).join

/-- The clock as it is now. -/
def readClock : IO Clock := do
  let now ← Std.Time.DateTime.now
  let stamp := now.toTimestamp
  let seconds := unixSeconds (sinceEpoch? stamp.toNanosecondsSinceUnixEpoch.val)
  return ⟨seconds, now.format "uuuu-MM-dd HH:mm:ss", now.format "uuuu-MM-dd HH:mm:ss,SSS"⟩

/-- A printed line. -/
def Demo.Line.display (json : Bool) (time : String) : Demo.Line → String
  | .plain text => text
  | .log d => if json then d.jsonLine time else d.textLine time

end Herald

open Herald in
def main (arguments : List String) : IO UInt32 := do
  let program := (← IO.appPath).toString
  let clock ← readClock
  let outcome := Demo.run (program :: arguments) (← readEnvironment) clock
  for line in outcome.output do
    IO.println (line.display outcome.json clock.precise)
  for delivery in outcome.deliveries do
    IO.println (delivery.line delivery.time)
  IO.eprint outcome.complaint
  return UInt32.ofNat outcome.exitStatus
