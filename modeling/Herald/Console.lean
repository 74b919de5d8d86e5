import Herald.Diagnostic
import Herald.Record.Basic

/-!
# The console sink

Records that reach the console are shown there as diagnostics. The rank decides
the severity: each standard level starts a new one, and the levels between two
standard levels belong to the lower.
-/

namespace Herald.Console

/-- The severity at which a level is shown. -/
def severity (l : Level) : Severity :=
  if Level.error ≤ l then .error
  else if Level.warning ≤ l then .warn
  else if Level.info ≤ l then .info
  else if Level.debug ≤ l then .debug
  else .trace

/-- A record as the console shows it. -/
def present (r : Record) : Diagnostic :=
  { severity := severity r.level
    target := "tidings_core::sink::tracing_sink"
    message := r.message
    fields :=
      [("logger", .quoted r.logger), ("level", .quoted r.levelName), ("file", .bare r.caller.file),
       ("line", .number r.caller.line.toNat)] }

end Herald.Console
