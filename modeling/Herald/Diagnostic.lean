/-!
# Diagnostics

What the library has to say about its own work, and what the console shows: a
severity, the part of the library that speaks, a message, and named fields. A
field holds a text or a number; a text is either quoted when it is written out
or bare.
-/

namespace Herald

/-- How urgent a diagnostic is. -/
inductive Severity where
  | trace | debug | info | warn | error
deriving DecidableEq

namespace Severity

/-- The name under which a severity is shown. -/
def label : Severity → String
  | .trace => "TRACE"
  | .debug => "DEBUG"
  | .info => "INFO"
  | .warn => "WARN"
  | .error => "ERROR"

/-- How much detail one has to ask for to see it, from errors (1) to traces (5). -/
def verbosity : Severity → Nat
  | .error => 1
  | .warn => 2
  | .info => 3
  | .debug => 4
  | .trace => 5

end Severity

/-- The value of a field. -/
inductive FieldValue where
  | quoted (text : String)
  | bare (text : String)
  | number (n : Nat)
deriving DecidableEq

/-- One line of the library about itself. -/
structure Diagnostic where
  severity : Severity
  target : String
  message : String
  fields : List (String × FieldValue) := []
deriving DecidableEq

end Herald
