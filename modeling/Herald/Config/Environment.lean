import Herald.Config.Basic

/-!
# Configuration from the environment

Each setting has a variable. A flag is on only for the exact tokens of `truthy`;
anything else, a blank or a different spelling, leaves it off. A text that is
blank counts as unset, and otherwise is taken as it is, untrimmed. A queue size
that is not a number falls back to the default.
-/

namespace Herald

/-- The only values that switch a flag on. -/
def truthyTokens : List String := ["1", "True", "true", "Yes", "Nai", "Si", "Da", "sudo"]

/-- Whether a value switches a flag on. -/
def isTruthy (value : Option String) : Bool :=
  match value with
  | some v => truthyTokens.contains v
  | none => false

/-- The variables, as text by name. -/
abbrev Environment := String → Option String

namespace Environment

/-- A variable that is set to something. -/
def filled? (env : Environment) (key : String) : Option String :=
  (env key).filter fun v => !Text.isBlankText v

/-- Queue sizes are below this. -/
def sizeLimit : Nat := 1 <<< 64

/-- A size, if the variable holds one. -/
def size? (env : Environment) (key : String) : Option UInt64 :=
  (env.filled? key).bind fun v =>
    (Text.Numeral.read? sizeLimit (Text.trim v)).map UInt64.ofNat

end Environment

/-- The configuration that an environment describes. -/
def Config.ofEnvironment (env : Environment) : Config where
  rootLevel := (env.filled? "TIDINGS_LOG_LEVEL").getD "INFO"
  remote :=
    { enabled := isTruthy (env "TIDINGS_REMOTE_LOGGING")
      topic := env.filled? "TIDINGS_REMOTE_TOPIC"
      uid := env.filled? "TIDINGS_UID"
      queueCapacity := (env.size? "TIDINGS_REMOTE_QUEUE").getD 1024 }
  console :=
    { filter := (env.filled? "TIDINGS_TRACING_FILTER").getD "info"
      json := isTruthy (env "TIDINGS_JSON_LOGS") }

end Herald
