import Herald.Manager.Threshold
import Herald.Text.Quoted

/-!
# Names and descriptions of loggers

A logger can be named after a type: by the path of the type, with dots, up to
where its parameters begin. A logger describes itself by its name, its own level
and whether its records are shipped.
-/

namespace Herald.Manager

/-- The name of a logger for a type, given the type's full name. -/
def nameOfType (fullName : String) : String :=
  Text.substitute (String.ofList (fullName.toList.takeWhile (· ≠ '<'))) "::" "."

/-- A logger in one line. -/
def describe (m : Manager) (key : String) : String :=
  let l := m.logger key
  s!"StructuredLogger \x7b name: {Text.quoted l.name}, level: Level({l.level.rank}), "
    ++ s!"remote_attached: {l.remoteAttached} \x7d"

end Herald.Manager
