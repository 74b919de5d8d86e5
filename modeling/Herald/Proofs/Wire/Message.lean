import Herald.Proofs.Json.Object
import Herald.Wire.Message

/-!
# Messages read back

What is published of a message is read as that message, except for the time, which
is whatever float the printed time is read as. That it is read as a float at all is
a fact about times and has its own place; here it is the one thing that is needed
of the time.
-/

namespace Herald

open Json Wire

/-- The printed time `x` is read as the time `y`. -/
def Wire.ReadsBack (x y : Float) : Prop :=
  ∀ rest, StopsValue rest → float (writeTime x ++ rest) = .ok (y, rest)

namespace Message

variable {m : Message} {y : Float}

/-- The five members fill a message. -/
theorem fills_shape (hstart : StartsValue (writeTime m.timestamp))
    (hread : ReadsBack m.timestamp y) (depth : Nat) :
    Fills shape depth {}
      [("timestamp", writeTime m.timestamp), ("msg", quote m.msg),
       ("level_no", writeUInt32 m.levelNo), ("level_name", quote m.levelName),
       ("logger_name", quote m.loggerName)]
      ⟨some y, some m.msg, some m.levelNo, some m.levelName, some m.loggerName⟩ := by
  refine .of_member rfl rfl hstart hread ?_
  refine .of_member rfl rfl (startsValue_quote _) (fun r _ => string_quote m.msg r) ?_
  refine .of_member rfl rfl (startsValue_writeNat _)
    (fun r hr => uint32_writeUInt32 m.levelNo hr.stopsNumber) ?_
  refine .of_member rfl rfl (startsValue_quote _) (fun r _ => string_quote m.levelName r) ?_
  refine .of_member rfl rfl (startsValue_quote _) (fun r _ => string_quote m.loggerName r) ?_
  exact .done _

/-- **The JSON text of a message is read as that message.** -/
theorem ofJson_toJson (hstart : StartsValue (writeTime m.timestamp))
    (hread : ReadsBack m.timestamp y) :
    Message.ofJson m.toJson = .ok { m with timestamp := y } :=
  readAll_of_fills (fills_shape hstart hread _) rfl

/-- **What is published of a message is read as that message.** -/
theorem decode_encode (hstart : StartsValue (writeTime m.timestamp))
    (hread : ReadsBack m.timestamp y) :
    Message.decode m.encode = .ok { m with timestamp := y } := by
  have htext : ∀ text : String, String.fromUTF8? text.toUTF8 = some text := by
    intro text
    have hvalid : text.toUTF8.IsValidUTF8 := text.isValidUTF8
    rw [String.fromUTF8?, dif_pos hvalid]
    rfl
  rw [decode, encode, htext]
  exact ofJson_toJson hstart hread

end Message

end Herald
