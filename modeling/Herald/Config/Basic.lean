import Herald.Error
import Herald.Level.Parse
import Herald.Topic

/-!
# Configuration

Three groups of settings: the threshold of the root, remote shipping, and the
console. A configuration is accepted when its root level is a level, its queue
has room and its console filter is not blank; `validate` reports the first of
these that fails, in this order.
-/

namespace Herald

/-- Remote shipping: whether it is on, where records go and how many may wait. -/
structure RemoteSettings where
  enabled : Bool := false
  topic : Option String := none
  uid : Option String := none
  queueCapacity : UInt64 := 1024
deriving DecidableEq

/-- The topic that records are shipped to. -/
def RemoteSettings.resolvedTopic (s : RemoteSettings) : String := Topic.resolve s.topic s.uid

/-- Console output: the filter directives and whether lines are written as JSON. -/
structure ConsoleSettings where
  filter : String := "info"
  json : Bool := false
deriving DecidableEq

/-- The whole configuration. -/
structure Config where
  rootLevel : String := "INFO"
  remote : RemoteSettings := {}
  console : ConsoleSettings := {}
deriving DecidableEq

namespace Config

/-- The threshold of the root, read in a registry. -/
def root (names : Registry) (c : Config) : Except LoggingError Level :=
  match Level.parse names c.rootLevel with
  | .ok l => .ok l
  | .error e => .error (.level e)

/-- Accepts the configuration with the level of its root, or reports its first fault. -/
def validate (names : Registry) (c : Config) : Except LoggingError Level :=
  match c.root names with
  | .error e => .error e
  | .ok l =>
    if c.remote.queueCapacity = 0 then
      .error (.invalidConfig "remote queue capacity must be positive")
    else if Text.isBlankText c.console.filter then
      .error (.invalidConfig "tracing filter must not be empty")
    else .ok l

end Config

end Herald
