import Herald.Breakdown
import Herald.Level.Registry

/-!
# What can go wrong

A publish can be rejected, or break on the way; building a manager can fail for
the configuration, for a level, for the metrics or for the transport, or break
off altogether. Each error is a cause, and `message` is its one wording.
-/

namespace Herald

/-- Why a publish failed. -/
inductive TransportError where
  /-- The broker took the message and refused it. -/
  | rejected (topic reason : String)
  /-- The message could not be written down. -/
  | serialize (cause : String)
  /-- The connection to the broker broke. -/
  | io (cause : String)
deriving DecidableEq

/-- The sentence shown for the error. -/
def TransportError.message : TransportError → String
  | .rejected topic reason => s!"publish to '{topic}' rejected: {reason}"
  | .serialize cause => s!"failed to serialize remote message: {cause}"
  | .io cause => s!"transport I/O error: {cause}"

/-- Why there is no manager, or no console output. -/
inductive LoggingError where
  /-- Shipping is on and there is nothing to ship with. -/
  | missingTransport
  /-- A setting that cannot be used, with the reason. -/
  | invalidConfig (reason : String)
  | level (e : LevelError)
  | transport (e : TransportError)
  | metrics (cause : String)
  /-- The console filter was refused, or console output is set up already. -/
  | subscriber (cause : String)
  /-- There is no answer at all. -/
  | breakdown (b : Breakdown)
deriving DecidableEq

/-- The sentence shown for the error; a level or a breakdown needs no introduction. -/
def LoggingError.message : LoggingError → String
  | .missingTransport => "remote logging is enabled but no transport was provided"
  | .invalidConfig reason => s!"invalid logging configuration: {reason}"
  | .level e => e.message
  | .transport e => s!"failed to start remote sink: {e.message}"
  | .metrics cause => s!"failed to register logging metrics: Error: {cause}"
  | .subscriber cause => s!"failed to install tracing subscriber: {cause}"
  | .breakdown b => b.message

end Herald
