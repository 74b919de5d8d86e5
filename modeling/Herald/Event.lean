import Herald.Diagnostic
import Herald.Escalation.Application
import Herald.Record.Basic
import Herald.Remote.Sink

/-!
# Events

What can be seen from outside while a call runs: a sink got a record, the queue
of the remote sink took a message or dropped it, an application got an
escalation, or the library said something about itself. Each operation returns
its events in the order in which they happened.
-/

namespace Herald

/-- Something that happened during a call. -/
inductive Event where
  | received (sink : Nat) (record : Record)
  | shipping (signal : Remote.Signal)
  | escalated (application : String) (escalation : Escalation)
  | said (diagnostic : Diagnostic)

end Herald
