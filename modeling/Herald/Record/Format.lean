import Herald.Record.Basic

/-!
# Record formats

How a record becomes one line of text. The plain format is the message alone;
the full line starts with the time, the process, the logger and the level.
-/

namespace Herald

/-- A rendering of records. -/
abbrev Format := Record → String

namespace Format

/-- The message alone. -/
def message : Format := fun r => r.message

/-- `2024-01-01 12:00:00,123 - 4242 - a.b - WARNING - text`, for the process with this id. -/
def line (process : String) : Format := fun r =>
  s!"{r.stamp.precise} - {process} - {r.logger} - {r.levelName} - {r.message}"

end Format

end Herald
