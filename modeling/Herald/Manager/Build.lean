import Herald.Level.Process
import Herald.Manager.Logging

/-!
# Building a manager

A manager is built from a configuration that is valid in the registry of the
process, and needs a transport when shipping is on. Whoever builds one may choose
its sinks, how its warnings are located and where its escalations go; the
console sink, when wanted, comes before the other root sinks.
-/

namespace Herald

/-- What a manager is built from. -/
structure Manager.Plan where
  config : Config := {}
  /-- Whether there is a transport to ship with. -/
  hasTransport : Bool := false
  format : Format := Format.message
  accessor : Accessor := .slot
  testMode : TestMode
  locator : Locator := .walk Core.library
  captureStack : Bool := false
  consoleSink : Bool := true
  rootSinks : List MemorySink := []
  slot : Slot := {}
  stack : List Symbol := []
  clock : Clock

namespace Manager

/-- What is said when records are going to be shipped. -/
def shippingDiagnostic (topic : String) : Diagnostic :=
  { severity := .info, target := "tidings_core::logger"
    message := "remote log shipping enabled", fields := [("topic", .bare topic)] }

/-- The remote sink that a plan asks for, if any. -/
def Plan.remote (p : Plan) : Except LoggingError (Option Remote.Sink) :=
  if p.config.remote.enabled then
    if p.hasTransport then
      match Remote.Sink.tryOfCapacity p.config.remote.resolvedTopic
          p.config.remote.queueCapacity.toNat with
      | .ok s => .ok (some s)
      | .error b => .error (.breakdown b)
    else .error .missingTransport
  else .ok none

/-- What is said when a remote sink is made. -/
def startEvents : Option Remote.Sink → List Event
  | some s => [.said (Remote.startedDiagnostic s.topic), .said (shippingDiagnostic s.topic)]
  | none => []

/-- The manager of a plan whose parts have been found in order. -/
def assemble (names : Registry) (p : Plan) (root : Level) (remote : Option Remote.Sink) :
    Manager where
  names
  rootLevel := root
  rootSinks :=
    (if p.consoleSink then [.console] else [])
      ++ (List.range p.rootSinks.length).map Sink.memory
  memory := p.rootSinks
  remote
  format := p.format
  accessor := p.accessor
  slot := p.slot
  testMode := p.testMode
  locator := p.locator
  captureStack := p.captureStack
  stack := p.stack
  clock := p.clock

/-- The manager of a plan and what is said on the way, or the first fault. -/
def build (names : Registry) (p : Plan) : Except LoggingError Traced :=
  match p.config.validate names with
  | .error e => .error e
  | .ok root =>
    match p.remote with
    | .error e => .error e
    | .ok remote => .ok (assemble names p root remote, startEvents remote)

/-- Builds in a process, which has a registry from then on. -/
def buildIn (process : ProcessLevels) (p : Plan) : Except LoggingError Traced × ProcessLevels :=
  let (names, process) := process.install
  (build names p, process)

end Manager

end Herald
