import Herald.Escalation.Warning

/-!
# Host applications

The slot holds the application that is running now, if any. It is looked up at
the moment of an escalation, so an application may come and go at any time.

An application either takes what it is given or breaks down over it. `Inbox`
keeps what each application took.
-/

namespace Herald

/-- An application that escalations can reach. -/
inductive Application where
  /-- Takes everything; the label tells one from another. -/
  | recording (label : String)
  /-- Breaks down on everything. -/
  | panicking
deriving DecidableEq

/-- How a call ended: it came back, or broke down with a text. -/
inductive Completion where
  | done
  | panicked (text : String)
deriving DecidableEq

/-- Something handed to an application. -/
inductive Escalation where
  | warning (w : Warning)
  | notify (text : String)
deriving DecidableEq

namespace Escalation

/-- The label under which the escalation is counted. -/
def kind : Escalation → String
  | .warning _ => "warning"
  | .notify _ => "notify"

/-- What a broken application says. -/
def panicText : Escalation → String
  | .warning w => s!"application warning escalated unexpectedly: {w.text}"
  | .notify text => s!"notification escalated unexpectedly: {text}"

end Escalation

end Herald
