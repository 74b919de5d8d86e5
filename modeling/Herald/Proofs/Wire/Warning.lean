import Herald.Proofs.Json.Value
import Herald.Proofs.Wire.Message
import Herald.Wire.Warning

/-!
# Warnings read back

A location is read back inside any value that leaves room for one object more, with a
stack or without. A warning is read back with its location, except for the time, about
which the same is to be known as for a message.
-/

namespace Herald

open Json Wire

namespace Location

/-- The four members fill a location. -/
theorem fills_shape (l : Location) (depth : Nat) :
    Fills shape depth {}
      [("file", quote l.file), ("line", writeUInt32 l.line), ("function", quote l.function),
       ("stack", writeOptional quote l.stack)]
      ⟨some l.file, some l.line, some l.function, some l.stack⟩ := by
  refine .of_member rfl rfl (startsValue_quote _) (fun r _ => string_quote l.file r) ?_
  refine .of_member rfl rfl (startsValue_writeNat _)
    (fun r hr => uint32_writeUInt32 l.line hr.stopsNumber) ?_
  refine .of_member rfl rfl (startsValue_quote _) (fun r _ => string_quote l.function r) ?_
  refine .of_member rfl rfl (startsValue_writeOptional _)
    (fun r _ => optional_writeOptional l.stack r) ?_
  exact .done _

/-- **A location inside a value is read as that location.** -/
theorem reader_writeChars (l : Location) {depth : Nat} (hdepth : 1 < depth) (rest : List Char) :
    reader depth (l.writeChars ++ rest) = .ok (l, rest) :=
  finish_of_fills rest hdepth (fills_shape l _) rfl

end Location

namespace Warning

variable {w : Warning} {y : Float}

/-- The four members fill a warning. -/
theorem fills_shape (hstart : StartsValue (writeTime w.timestamp))
    (hread : ReadsBack w.timestamp y) {depth : Nat} (hdepth : 1 < depth) :
    Fills shape depth {}
      [("timestamp", writeTime w.timestamp), ("logger_name", quote w.logger),
       ("caller_location", w.caller.writeChars), ("warning_msg", quote w.text)]
      ⟨some y, some w.logger, some w.caller, some w.text⟩ := by
  refine .of_member rfl rfl hstart hread ?_
  refine .of_member rfl rfl (startsValue_quote _) (fun r _ => string_quote w.logger r) ?_
  refine .of_member rfl rfl ⟨'\x7b', _, rfl, by decide⟩
    (fun r _ => w.caller.reader_writeChars hdepth r) ?_
  refine .of_member rfl rfl (startsValue_quote _) (fun r _ => string_quote w.text r) ?_
  exact .done _

/-- **The JSON text of a warning is read as that warning.** -/
theorem ofJson_toJson (hstart : StartsValue (writeTime w.timestamp))
    (hread : ReadsBack w.timestamp y) :
    Warning.ofJson w.toJson = .ok { w with timestamp := y } :=
  readAll_of_fills (fills_shape hstart hread (by decide)) rfl

end Warning

end Herald
