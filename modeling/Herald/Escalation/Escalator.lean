import Herald.Escalation.Slot
import Herald.Event
import Herald.Metrics

/-!
# Escalating

An escalation goes to the application that is installed at that moment and is
counted as delivered once the application has taken it. Without an application
it is counted as missed and said aloud. An application that breaks down over it
breaks the call, and then nothing is counted.
-/

namespace Herald

/-- Where escalations look for an application. -/
inductive Accessor where
  | slot
  /-- Never finds one. -/
  | nowhere
deriving DecidableEq

/-- The application that is found at this moment. -/
def Accessor.find (s : Slot) : Accessor → Option Application
  | .slot => s.current
  | .nowhere => none

namespace Escalation

/-- What is said when there is no application. -/
def missedDiagnostic : Escalation → Diagnostic
  | .warning w =>
    { severity := .error, target := "tidings_core::escalation"
      message := s!"no running application to receive warning: {w.text}"
      fields := [("logger", .bare w.logger), ("caller", .bare w.caller.display)] }
  | .notify text =>
    { severity := .error, target := "tidings_core::escalation"
      message := s!"no running application to receive notification: {text}" }

/-- Hands an escalation to whoever the accessor finds. -/
def deliver (accessor : Accessor) (e : Escalation) (s : Slot) (m : Metrics) :
    Slot × Metrics × List Event × Completion :=
  match accessor.find s with
  | some (.recording label) =>
    (s.deposit label e, { m with escalated := m.escalated.bump e.kind },
      [.escalated label e], .done)
  | some .panicking => (s, m, [], .panicked e.panicText)
  | none =>
    (s, { m with missed := m.missed.bump e.kind }, [.said e.missedDiagnostic], .done)

end Escalation

end Herald
