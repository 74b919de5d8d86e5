import Herald.Record.Location
import Herald.Wire.Basic

/-!
# Caller locations as JSON

Four members, of which the stack may be `null` or missing.
-/

namespace Herald.Location

open Json Wire

/-- The characters of the JSON text. -/
def writeChars (l : Location) : List Char :=
  writeObject
    [("file", quote l.file), ("line", writeUInt32 l.line), ("function", quote l.function),
     ("stack", writeOptional quote l.stack)]

/-- A location some of whose members have been read. -/
structure Partial where
  file : Option String := none
  line : Option UInt32 := none
  function : Option String := none
  stack : Option (Option String) := none

/-- The members of a location; unknown ones are passed over. -/
def shape : Shape Partial where
  members :=
    [ member "file" (·.file) (fun a v => { a with file := some v }) fun _ => string,
      member "line" (·.line) (fun a v => { a with line := some v }) fun _ => uint32,
      member "function" (·.function) (fun a v => { a with function := some v }) fun _ => string,
      member "stack" (·.stack) (fun a v => { a with stack := some v })
        fun _ => optional string ]
  unknown := ignore

/-- The location, once file, line and function have been read. -/
def Partial.whole (p : Partial) : Option Location := do
  return ⟨← p.file, ← p.line, ← p.function, p.stack.join⟩

/-- Reads a location inside another value. -/
def reader (depth : Nat) : Reader Location := fun cs =>
  (shape.read {} depth cs).finish Partial.whole

end Herald.Location
