import Herald.Config.Environment

/-!
# Options

What a command line can ask for: settings that take a value, and switches. What
is given there goes before what the environment says; a switch can only turn
something on.
-/

namespace Herald

/-- The settings that take a value. -/
inductive Setting where
  | logLevel | filter | uid | topic
deriving DecidableEq

/-- The settings that are on or off. -/
inductive Switch where
  | json | remote | production
deriving DecidableEq

/-- What a command line asks for. -/
structure Options where
  logLevel : Option String := none
  filter : Option String := none
  uid : Option String := none
  topic : Option String := none
  json : Bool := false
  remote : Bool := false
  /-- Whether to run as a real application even under a test runner. -/
  production : Bool := false
deriving DecidableEq

namespace Options

/-- The value given for a setting. -/
def value? (o : Options) : Setting → Option String
  | .logLevel => o.logLevel
  | .filter => o.filter
  | .uid => o.uid
  | .topic => o.topic

/-- Stores the value of a setting. -/
def setValue (o : Options) (v : String) : Setting → Options
  | .logLevel => { o with logLevel := some v }
  | .filter => { o with filter := some v }
  | .uid => { o with uid := some v }
  | .topic => { o with topic := some v }

/-- Whether a switch is on. -/
def isOn (o : Options) : Switch → Bool
  | .json => o.json
  | .remote => o.remote
  | .production => o.production

/-- Turns a switch on. -/
def turnOn (o : Options) : Switch → Options
  | .json => { o with json := true }
  | .remote => { o with remote := true }
  | .production => { o with production := true }

/-- A configuration in which what the command line gives goes before what was there. -/
def overlay (o : Options) (c : Config) : Config where
  rootLevel := o.logLevel.getD c.rootLevel
  remote :=
    { c.remote with
      enabled := c.remote.enabled || o.remote
      topic := o.topic.or c.remote.topic
      uid := o.uid.or c.remote.uid }
  console :=
    { filter := o.filter.getD c.console.filter
      json := c.console.json || o.json }

/-- The configuration that the environment and the command line describe, if it is valid. -/
def config (names : Registry) (env : Environment) (o : Options) : Except LoggingError Config :=
  let c := o.overlay (Config.ofEnvironment env)
  match c.validate names with
  | .ok _ => .ok c
  | .error e => .error e

end Options

end Herald
