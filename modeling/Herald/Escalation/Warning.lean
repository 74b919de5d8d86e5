import Herald.Record.Location
import Herald.Text.Split

/-!
# Application warnings

What the host application is given when a connection fails: when, by which
logger, from where, and the text to show.
-/

namespace Herald

/-- A warning for the host application. -/
structure Warning where
  /-- Seconds since the epoch. -/
  timestamp : Float
  logger : String
  caller : Location
  text : String
deriving DecidableEq

/-- The last part of the logger's dotted name. -/
def Warning.moduleName (w : Warning) : String :=
  match Text.splitLast? '.' w.logger.toList with
  | some (_, last) => String.ofList last
  | none => w.logger

end Herald
