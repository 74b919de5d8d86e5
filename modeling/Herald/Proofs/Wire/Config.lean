import Herald.Proofs.Json.Value
import Herald.Wire.Config

/-!
# Configurations read back

Of the remote settings only the flag is known to the shape of their object. The topic,
the identifier and the size of the queue are kept as values until the object ends, under
their keys and in the order in which they were written, so that each of them is found
again under its own key and once.
-/

namespace Herald

open Json Wire

namespace RemoteSettings

/-- What is kept of the settings until their object ends. -/
def kept (s : RemoteSettings) : List (String × Value) :=
  [("topic", .ofText? s.topic), ("uid", .ofText? s.uid),
   ("queue_capacity", .number (.natural s.queueCapacity))]

/-- The flag fills its place, and the other members are kept. -/
theorem fills_shape (s : RemoteSettings) (depth : Nat) :
    Fills shape depth {}
      [("enabled", writeBool s.enabled), ("topic", writeOptional quote s.topic),
       ("uid", writeOptional quote s.uid), ("queue_capacity", writeUInt64 s.queueCapacity)]
      ⟨some s.enabled, s.kept⟩ := by
  refine .of_member rfl rfl (startsValue_writeBool _) (fun r _ => boolean_writeBool s.enabled r) ?_
  refine .unknown rfl (startsValue_writeOptional _)
    (fun r _ => congrArg (Parsed.map _) (readValue_writeOptional s.topic)) ?_
  refine .unknown rfl (startsValue_writeOptional _)
    (fun r _ => congrArg (Parsed.map _) (readValue_writeOptional s.uid)) ?_
  refine .unknown rfl (startsValue_writeNat _)
    (fun r hr => congrArg (Parsed.map _) (readValue_writeUInt64 s.queueCapacity hr.stopsNumber)) ?_
  exact .done _

theorem text?_ofText? (t : Option String) : text? [.ofText? t] = some t := by
  cases t with
  | none => rfl
  | some s => rfl

/-- **Each kept member is found under its own key.** -/
theorem whole_kept (s : RemoteSettings) :
    Partial.whole ⟨some s.enabled, s.kept⟩ = some s := by
  have htopic : valuesOf "topic" s.kept = [.ofText? s.topic] := rfl
  have huid : valuesOf "uid" s.kept = [.ofText? s.uid] := rfl
  have hsize : valuesOf "queue_capacity" s.kept = [.number (.natural s.queueCapacity)] := rfl
  rw [Partial.whole]
  dsimp only
  rw [htopic, huid, hsize, text?_ofText?, text?_ofText?]
  rfl

/-- **Remote settings inside a value are read as those settings.** -/
theorem reader_writeChars (s : RemoteSettings) {depth : Nat} (hdepth : 1 < depth)
    (rest : List Char) : reader depth (s.writeChars ++ rest) = .ok (s, rest) :=
  finish_of_fills rest hdepth (fills_shape s _) (whole_kept s)

end RemoteSettings

namespace ConsoleSettings

/-- The two members fill console settings. -/
theorem fills_shape (s : ConsoleSettings) (depth : Nat) :
    Fills shape depth {} [("filter", quote s.filter), ("json", writeBool s.json)]
      ⟨some s.filter, some s.json⟩ := by
  refine .of_member rfl rfl (startsValue_quote _) (fun r _ => string_quote s.filter r) ?_
  refine .of_member rfl rfl (startsValue_writeBool _) (fun r _ => boolean_writeBool s.json r) ?_
  exact .done _

/-- **Console settings inside a value are read as those settings.** -/
theorem reader_writeChars (s : ConsoleSettings) {depth : Nat} (hdepth : 1 < depth)
    (rest : List Char) : reader depth (s.writeChars ++ rest) = .ok (s, rest) :=
  finish_of_fills rest hdepth (fills_shape s _) rfl

end ConsoleSettings

namespace Config

/-- The three members fill a configuration. -/
theorem fills_shape (c : Config) {depth : Nat} (hdepth : 1 < depth) :
    Fills shape depth {}
      [("root_level", quote c.rootLevel), ("remote", c.remote.writeChars),
       ("tracing", c.console.writeChars)]
      ⟨some c.rootLevel, some c.remote, some c.console⟩ := by
  refine .of_member rfl rfl (startsValue_quote _) (fun r _ => string_quote c.rootLevel r) ?_
  refine .of_member rfl rfl ⟨'\x7b', _, rfl, by decide⟩
    (fun r _ => c.remote.reader_writeChars hdepth r) ?_
  refine .of_member rfl rfl ⟨'\x7b', _, rfl, by decide⟩
    (fun r _ => c.console.reader_writeChars hdepth r) ?_
  exact .done _

/-- **The JSON text of a configuration is read as that configuration.** -/
theorem ofJson_toJson (c : Config) : Config.ofJson c.toJson = .ok c :=
  readAll_of_fills (fills_shape c (by decide)) rfl

end Config

end Herald
