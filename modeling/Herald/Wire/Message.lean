import Herald.Record.Format
import Herald.Wire.Basic

/-!
# Remote messages

What is shipped of a record: the time of shipping, the rendered text, the level
as rank and as name, and the logger. On the wire it is one JSON object with
these five members in this order.
-/

namespace Herald

/-- A record on its way to the remote side. -/
structure Message where
  timestamp : Float
  msg : String
  levelNo : UInt32
  levelName : String
  loggerName : String
deriving DecidableEq

namespace Message

open Json Wire

/-- Wraps a rendered record, stamped with the time of wrapping. -/
def ofRecord (now : Float) (r : Record) (rendered : String) : Message :=
  ⟨now, rendered, r.level.rank, r.levelName, r.logger⟩

/-! ## Writing -/

/-- The characters of the JSON text. -/
def writeChars (m : Message) : List Char :=
  writeObject
    [("timestamp", writeTime m.timestamp), ("msg", quote m.msg),
     ("level_no", writeUInt32 m.levelNo), ("level_name", quote m.levelName),
     ("logger_name", quote m.loggerName)]

/-- The JSON text of a message. -/
def toJson (m : Message) : String := String.ofList m.writeChars

/-- The bytes that are published. -/
def encode (m : Message) : ByteArray := m.toJson.toUTF8

/-! ## Reading -/

/-- A message some of whose members have been read. -/
structure Partial where
  timestamp : Option Float := none
  msg : Option String := none
  levelNo : Option UInt32 := none
  levelName : Option String := none
  loggerName : Option String := none

/-- The members of a message; unknown ones are passed over. -/
def shape : Shape Partial where
  members :=
    [ member "timestamp" (·.timestamp) (fun a v => { a with timestamp := some v }) fun _ => float,
      member "msg" (·.msg) (fun a v => { a with msg := some v }) fun _ => string,
      member "level_no" (·.levelNo) (fun a v => { a with levelNo := some v }) fun _ => uint32,
      member "level_name" (·.levelName) (fun a v => { a with levelName := some v })
        fun _ => string,
      member "logger_name" (·.loggerName) (fun a v => { a with loggerName := some v })
        fun _ => string ]
  unknown := ignore

/-- The message, once every member has been read. -/
def Partial.whole (p : Partial) : Option Message := do
  return ⟨← p.timestamp, ← p.msg, ← p.levelNo, ← p.levelName, ← p.loggerName⟩

/-- Reads a message. -/
def reader : Reader Message := fun cs => (shape.read {} nestingLimit cs).finish Partial.whole

/-- The message in a JSON text. -/
def ofJson (text : String) : Except Fault Message := readAll reader text

/-- The message in published bytes. Bytes that are not text are malformed. -/
def decode (payload : ByteArray) : Except Fault Message :=
  match String.fromUTF8? payload with
  | some text => ofJson text
  | none => .error .malformed

end Message

end Herald
