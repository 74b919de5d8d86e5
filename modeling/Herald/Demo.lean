import Herald.CommandLine.Help
import Herald.Console.Filter
import Herald.Console.Line
import Herald.Manager.Build
import Herald.Manager.Naming
import Herald.Manager.Operation
import Herald.Manager.Shipping
import Herald.Report

/-!
# The walkthrough

A trading desk in miniature: a strategy logs, an order is filled, a connection is
lost and a limit is breached. Records are shipped over an in-process bus, where a
subscriber prints them, and an application shows what is escalated.

The whole program is a function of its arguments, its environment and a reading
of the clock.
-/

namespace Herald.Demo

/-- A line that the program prints. -/
inductive Line where
  /-- A diagnostic that passed the console filter. -/
  | log (d : Diagnostic)
  | plain (text : String)
deriving DecidableEq

/-- A record as the subscriber gets it. -/
structure Delivery where
  topic : String
  message : Message
deriving DecidableEq

/-- What a run of the program leaves behind. -/
structure Outcome where
  exitStatus : Nat
  /-- Whether diagnostics are printed as JSON. -/
  json : Bool := false
  output : List Line := []
  /-- What the subscriber gets. -/
  deliveries : List Delivery := []
  /-- What is printed on the error channel. -/
  complaint : String := ""
deriving DecidableEq

/-! ## What is printed -/

/-- What the application shows of an escalation. -/
def announce : Escalation → List String
  | .notify text => [s!"[notify] {text}"]
  | .warning w =>
    s!"[warning] {w.text} ({w.moduleName} at {w.caller.file}:{w.caller.line})"
      :: w.caller.stack.toList

/-- The lines that an event prints. -/
def linesOf (filter : Console.Filter) : Event → List Line
  | .said d => if filter.shows d then [.log d] else []
  | .escalated _ e => (announce e).map Line.plain
  | .received _ _ | .shipping _ => []

/-- A record as the subscriber prints it, the time being written as given. -/
def Delivery.line (time : String) (d : Delivery) : String :=
  s!"[{d.topic}] {time} {d.message.loggerName} {d.message.levelName}: {d.message.msg}"

/-- The time of a record, in seconds with three places. -/
def Delivery.time (d : Delivery) : String := Decimal.fixed 3 d.message.timestamp

/-- The messages that can be read. -/
def deliveriesOf (ms : List BusMessage) : List Delivery :=
  ms.filterMap fun m =>
    match Message.decode m.payload with
    | .ok x => some ⟨m.topic, x⟩
    | .error _ => none

/-- A text with every line indented. -/
def indent (text : String) : String :=
  "    " ++ Text.substitute text "\n" "\n    "

/-- A failure and its cause. -/
def complaint (context : String) (cause : LoggingError) : String :=
  s!"Error: {context}\n\nCaused by:\n{indent cause.message}\n"

/-- The end of a run by an error, which is shown as given. -/
def failure (json : Bool) (output : List Line) (shown : String) (e : LoggingError) : Outcome :=
  match e with
  | .breakdown b =>
    { exitStatus := Breakdown.exitStatus, json, output, complaint := s!"{b.message}\n" }
  | _ => { exitStatus := 1, json, output, complaint := shown }

/-! ## What happens -/

/-- Where the program itself speaks. -/
def target : String := "tidings_demo"

/-- Where the shipping report speaks. -/
def reportTarget : String := "tidings_bins::common"

/-- The application of the program. -/
def application : Application := .recording "console"

/-- The logger of the connection. -/
def connectorName : String := Manager.nameOfType "tidings_demo::Connector"

/-- What the desk does. -/
def script : List Operation :=
  [.log "strategy.maker" Level.debug "quote recalculated",
   .log "strategy.maker" Level.info "quotes placed on both sides",
   .notify "strategy.maker" "Order filled: 0.5 BTC @ 64,210",
   .network connectorName "websocket closed with code 1006, reconnecting"
     (some "Exchange connection lost. Check your network."),
   .log "risk" Level.error "position limit breached"]

/-- The place that records come from. -/
def site : Site := ⟨"Herald/Demo.lean", 1⟩

/-- The operations one after another, the worker running in between. -/
def perform (m : Manager) (c : Remote.Carrier) : List Operation →
    Manager × Remote.Carrier × List Event
  | [] => (m, c, [])
  | o :: rest =>
    let (m, events, _) := m.perform site o
    let (m, c, _) := m.settle c
    let (m, c, more) := perform m c rest
    (m, c, events ++ more)

/-- A line of the program about itself. -/
def remark (target message : String) : Event :=
  .said { severity := .info, target, message }

/-- What the program says once it knows whether it ships. -/
def shippingRemark (s : RemoteSettings) : Event :=
  remark target
    (if s.enabled then s!"Shipping records to {s.resolvedTopic}"
     else "Remote shipping disabled (pass --remote to enable)")

/-- The report of the remote sink, if there is one. -/
def report (m : Manager) : List Event :=
  match m.remote with
  | some s => s.stats.report.map (remark reportTarget)
  | none => []

/-- From a manager to the end: what was seen, and what the subscriber got. -/
def play (m : Manager) (c : Remote.Carrier) (subscriber : Nat) (s : RemoteSettings) :
    List Event × List BusMessage :=
  let (m, c, events) := perform m c script
  let (m, c, signals, _) := m.shutdown c
  let said := (signals.filterMap (Remote.Signal.ofCaller? s.resolvedTopic)).map Event.said
  (shippingRemark s :: events ++ said ++ report m, (c.bus.drain subscriber).1)

/-- What the manager is built from. -/
def plan (arguments : List String) (o : Options) (config : Config) (clock : Clock) :
    Manager.Plan where
  config
  hasTransport := true
  testMode := if o.production then .forced false else .detect arguments
  slot := Slot.install {} application
  clock

/-- The program once its configuration and its filter are known. -/
def runWith (names : Registry) (p : Manager.Plan) (filter : Console.Filter) : Outcome :=
  let topic := p.config.remote.resolvedTopic
  let (bus, subscriber) := (Bus.ofCapacity Bus.defaultCapacity).subscribe topic
  let opening := remark target "=== Tidings: structured logging demo ==="
  match Manager.build names p with
  | .error e =>
    failure p.config.console.json (linesOf filter opening) s!"Error: {e.message}\n" e
  | .ok (m, started) =>
    let (events, delivered) := play m ⟨.bus, bus⟩ subscriber p.config.remote
    { exitStatus := 0, json := p.config.console.json
      output := (opening :: started ++ events).flatMap (linesOf filter)
      deliveries := deliveriesOf delivered }

/-- What is printed instead of a run. -/
def refusalLines (arguments : List String) : Refusal → List String
  | .helpWanted full => CommandLine.help arguments full
  | .versionWanted => [CommandLine.version]
  | _ => []

/-- The program. -/
def run (arguments : List String) (env : Environment) (clock : Clock) : Outcome :=
  match Options.read arguments with
  | .error r =>
    { exitStatus := r.exitStatus, output := (refusalLines arguments r).map Line.plain
      complaint := if r.exitStatus = 0 then "" else s!"error: {r.message}\n" }
  | .ok o =>
    let names := Registry.defaults
    match o.config names env with
    | .error e => { exitStatus := 1, complaint := complaint "invalid logging configuration" e }
    | .ok config =>
      match Console.Filter.install false env config.console with
      | .error e => failure false [] (complaint "failed to install tracing subscriber" e) e
      | .ok filter => runWith names (plan arguments o config clock) filter

end Herald.Demo
