import Herald.Escalation.Warning
import Herald.Wire.Location

/-!
# Application warnings as JSON

Four members, one of which is the caller location as an object of its own.
-/

namespace Herald.Warning

open Json Wire

/-- The characters of the JSON text. -/
def writeChars (w : Warning) : List Char :=
  writeObject
    [("timestamp", writeTime w.timestamp), ("logger_name", quote w.logger),
     ("caller_location", w.caller.writeChars), ("warning_msg", quote w.text)]

/-- The JSON text of a warning. -/
def toJson (w : Warning) : String := String.ofList w.writeChars

/-- A warning some of whose members have been read. -/
structure Partial where
  timestamp : Option Float := none
  logger : Option String := none
  caller : Option Location := none
  text : Option String := none

/-- The members of a warning; unknown ones are passed over. -/
def shape : Shape Partial where
  members :=
    [ member "timestamp" (·.timestamp) (fun a v => { a with timestamp := some v }) fun _ => float,
      member "logger_name" (·.logger) (fun a v => { a with logger := some v }) fun _ => string,
      member "caller_location" (·.caller) (fun a v => { a with caller := some v })
        Location.reader,
      member "warning_msg" (·.text) (fun a v => { a with text := some v }) fun _ => string ]
  unknown := ignore

/-- The warning, once every member has been read. -/
def Partial.whole (p : Partial) : Option Warning := do
  return ⟨← p.timestamp, ← p.logger, ← p.caller, ← p.text⟩

/-- Reads a warning. -/
def reader : Reader Warning := fun cs => (shape.read {} nestingLimit cs).finish Partial.whole

/-- The warning in a JSON text. -/
def ofJson (text : String) : Except Fault Warning := readAll reader text

end Herald.Warning
