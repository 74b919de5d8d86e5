import Herald.Config.Basic
import Herald.Wire.Basic

/-!
# Configurations as JSON

The remote settings are one object in which the flag stands beside the settings
of the sink. Its other members are kept as values until the object ends, and
only then are the sink's settings taken out of them; so that object cannot be
given as an array, and nesting inside it is limited.
-/

namespace Herald

open Json Wire

/-! ## Remote settings -/

/-- The characters of the JSON text. -/
def RemoteSettings.writeChars (s : RemoteSettings) : List Char :=
  writeObject
    [("enabled", writeBool s.enabled), ("topic", writeOptional quote s.topic),
     ("uid", writeOptional quote s.uid), ("queue_capacity", writeUInt64 s.queueCapacity)]

/-- Remote settings some of whose members have been read. -/
structure RemoteSettings.Partial where
  enabled : Option Bool := none
  /-- The members whose meaning is settled at the end, in order. -/
  others : List (String × Value) := []

namespace RemoteSettings

/-- The flag is read at once; every other member is kept. -/
def shape : Shape Partial where
  members :=
    [member "enabled" (·.enabled) (fun a v => { a with enabled := some v }) fun _ => boolean]
  unknown := fun key depth a cs =>
    (readValue (2 * cs.length + 2) depth cs).map fun v =>
      { a with others := a.others ++ [(key, v)] }

/-- The values of a key. -/
def valuesOf (key : String) (members : List (String × Value)) : List Value :=
  (members.filter fun m => m.1 = key).map Prod.snd

/-- A text or nothing, given at most once. -/
def text? : List Value → Option (Option String)
  | [] => some none
  | [.null] => some none
  | [.text s] => some (some s)
  | _ => none

/-- A size, given exactly once. -/
def size? : List Value → Option UInt64
  | [.number n] => n.toUInt64?
  | _ => none

/-- The settings, once the flag and the queue size have been read. -/
def Partial.whole (p : Partial) : Option RemoteSettings := do
  return ⟨← p.enabled, ← text? (valuesOf "topic" p.others), ← text? (valuesOf "uid" p.others),
    ← size? (valuesOf "queue_capacity" p.others)⟩

/-- Reads remote settings, which have to be an object. -/
def reader (depth : Nat) : Reader RemoteSettings := fun cs =>
  (shape.readObject {} depth cs).finish Partial.whole

end RemoteSettings

/-! ## Console settings -/

/-- The characters of the JSON text. -/
def ConsoleSettings.writeChars (s : ConsoleSettings) : List Char :=
  writeObject [("filter", quote s.filter), ("json", writeBool s.json)]

/-- Console settings some of whose members have been read. -/
structure ConsoleSettings.Partial where
  filter : Option String := none
  json : Option Bool := none

namespace ConsoleSettings

/-- The two members; unknown ones are passed over. -/
def shape : Shape Partial where
  members :=
    [ member "filter" (·.filter) (fun a v => { a with filter := some v }) fun _ => string,
      member "json" (·.json) (fun a v => { a with json := some v }) fun _ => boolean ]
  unknown := ignore

/-- The settings, once both members have been read. -/
def Partial.whole (p : Partial) : Option ConsoleSettings := do
  return ⟨← p.filter, ← p.json⟩

/-- Reads console settings. -/
def reader (depth : Nat) : Reader ConsoleSettings := fun cs =>
  (shape.read {} depth cs).finish Partial.whole

end ConsoleSettings

/-! ## The whole configuration -/

namespace Config

/-- The characters of the JSON text. -/
def writeChars (c : Config) : List Char :=
  writeObject
    [("root_level", quote c.rootLevel), ("remote", c.remote.writeChars),
     ("tracing", c.console.writeChars)]

/-- The JSON text of a configuration. -/
def toJson (c : Config) : String := String.ofList c.writeChars

/-- A configuration some of whose members have been read. -/
structure Partial where
  rootLevel : Option String := none
  remote : Option RemoteSettings := none
  console : Option ConsoleSettings := none

/-- The three members; unknown ones are passed over. -/
def shape : Shape Partial where
  members :=
    [ member "root_level" (·.rootLevel) (fun a v => { a with rootLevel := some v })
        fun _ => string,
      member "remote" (·.remote) (fun a v => { a with remote := some v }) RemoteSettings.reader,
      member "tracing" (·.console) (fun a v => { a with console := some v })
        ConsoleSettings.reader ]
  unknown := ignore

/-- The configuration, once every member has been read. -/
def Partial.whole (p : Partial) : Option Config := do
  return ⟨← p.rootLevel, ← p.remote, ← p.console⟩

/-- Reads a configuration. -/
def reader : Reader Config := fun cs => (shape.read {} nestingLimit cs).finish Partial.whole

/-- The configuration in a JSON text. -/
def ofJson (text : String) : Except Fault Config := readAll reader text

end Config

end Herald
