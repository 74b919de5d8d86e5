import Herald.Console
import Herald.Manager.Threshold

/-!
# Logging

A call that passes its logger's threshold makes a record, counts it under its
level, and gives it to the logger's own sinks and then to the root sinks, each of
which applies its own threshold. A sink that relays logs the record on, with a
mark in front, before the outer record goes further; a marked record is not
relayed again.

Notifications and network troubles are logged and then escalated. The escalation
does not depend on any threshold, and it is held back under a test runner. The text
of a warning is logged too, as a record of its own.
-/

namespace Herald

/-- The place of a logging call in the source. -/
structure Site where
  file : String
  line : UInt32

/-- The mark in front of a relayed message. -/
def relayMark : String := "echo:"

/-- Whether a message has been relayed already. -/
def isRelayed (message : String) : Bool := relayMark.toList.isPrefixOf message.toList

namespace Manager

/-- A state with what happened on the way to it. -/
abbrev Traced := Manager × List Event

/-- The lowest level that a sink takes. -/
def threshold (m : Manager) : Sink → Level
  | .remote | .console => Level.notset
  | .memory id => (m.memory[id]?.map (·.threshold)).getD Level.notset

/-- Whether a sink takes a record. -/
def accepts (m : Manager) (s : Sink) (r : Record) : Bool := r.passes (m.threshold s)

/-- The remote counters after a signal. -/
def countSignal (t : Metrics) : Remote.Signal → Metrics
  | .finished .published => { t with published := t.published + 1 }
  | .finished _ => { t with failed := t.failed + 1 }
  | .dropped _ => { t with dropped := t.dropped + 1 }
  | _ => t

/-- The state with a remote sink that has moved, its signals counted. -/
def withRemote (m : Manager) (s : Remote.Sink) (signals : List Remote.Signal) : Manager :=
  { m with remote := some s, metrics := signals.foldl countSignal m.metrics }

/-- The remote sink goes on by itself. What it cannot do now is left out. -/
def drift (m : Manager) : List Remote.Action → Manager
  | [] => m
  | a :: rest =>
    match m.remote.bind fun s => s.step a with
    | some (s, signals) => (m.withRemote s signals).drift rest
    | none => m.drift rest

/-- A record goes into the queue of the remote sink. -/
def ship (m : Manager) (r : Record) : Traced :=
  match m.remote with
  | none => (m, [])
  | some s =>
    let (s, signals) := s.emit (Message.ofRecord m.clock.seconds r (m.format r))
    (m.withRemote s signals, signals.map Event.shipping)

/-- A sink takes a record. -/
def store (m : Manager) (s : Sink) (r : Record) : Traced :=
  match s with
  | .remote => m.ship r
  | .console => (m, [.said (Console.present r)])
  | .memory id =>
    (m.updateMemory id fun s => { s with records := s.records ++ [r] }, [.received id r])

/-- Goes through the sinks in order; `take` is what a sink does that accepts the record. -/
def offerAll (take : Manager → Sink → Traced) (r : Record) : List Sink → Manager → Traced
  | [], m => (m, [])
  | s :: rest, m =>
    let (m, events) := if m.accepts s r then take m s else (m, [])
    let (m, more) := offerAll take r rest m
    (m, events ++ more)

/-- The record of a call, if its level passes the logger's threshold. -/
def record? (m : Manager) (site : Site) (key : String) (l : Level) (message : String) :
    Option Record :=
  if m.isEnabledFor key l then
    let name := (m.logger key).name
    some (Record.of m.names m.clock l message name (Location.ofSite site.file site.line))
  else none

theorem record?_eq (m : Manager) (site : Site) (key : String) (l : Level) (message : String) :
    m.record? site key l message
      = if m.isEnabledFor key l then
          some (Record.of m.names m.clock l message key (Location.ofSite site.file site.line))
        else none := by
  simp only [record?, name_logger]

/-- Counts a record under its level. -/
def countRecord (m : Manager) (r : Record) : Manager :=
  { m with metrics := { m.metrics with records := m.metrics.records.bump r.levelName } }

/-- The sinks that a logger's records go to, in order. -/
def sinksOf (m : Manager) (key : String) : List Sink := (m.logger key).sinks ++ m.rootSinks

/-- Counts a record and gives it to the sinks. -/
def dispatch (take : Record → Manager → Sink → Traced) (m : Manager) (key : String) (r : Record) :
    Traced :=
  offerAll (take r) r (m.sinksOf key) (m.countRecord r)

/-- Logs a message that is not relayed. -/
def logRelayed (m : Manager) (site : Site) (key : String) (l : Level) (message : String) : Traced :=
  match m.record? site key l message with
  | some r => m.dispatch (fun r m s => m.store s r) key r
  | none => (m, [])

/-- The relay of a sink, if it has one. -/
def relay? (m : Manager) : Sink → Option Relay
  | .memory id => (m.memory[id]?).bind (·.relay)
  | _ => none

/-- A sink takes a record and relays it. -/
def storeAndRelay (site : Site) (r : Record) (m : Manager) (s : Sink) : Traced :=
  let (m, events) := m.store s r
  match m.relay? s with
  | none => (m, events)
  | some relay =>
    if isRelayed r.message then (m, events)
    else
      let (m, more) := m.logRelayed site relay.logger relay.level (relayMark ++ r.message)
      (m, events ++ more)

/-- Logs a message through a logger. -/
def logAt (m : Manager) (site : Site) (key : String) (l : Level) (message : String) : Traced :=
  match m.record? site key l message with
  | some r => m.dispatch (storeAndRelay site) key r
  | none => (m, [])

/-- Hands an escalation to the application. -/
def escalate (m : Manager) (e : Escalation) : Manager × List Event × Completion :=
  let (slot, metrics, events, completion) := e.deliver m.accessor m.slot m.metrics
  ({ m with slot, metrics }, events, completion)

/-- The text that an application shows for a notification. -/
def notificationText (c : Clock) (message : String) : String := s!"({c.civil}) {message}"

/-- Logs a message for the user and shows it. -/
def notify (m : Manager) (site : Site) (key message : String) :
    Manager × List Event × Completion :=
  let (m, logged) := m.logAt site key Level.notify message
  if m.testMode.isActive then (m, logged, .done)
  else
    let (m, events, completion) := m.escalate (.notify (notificationText m.clock message))
    (m, logged ++ events, completion)

/-- The warning that a logger raises. -/
def warningOf (m : Manager) (key text : String) : Warning :=
  ⟨m.clock.seconds, (m.logger key).name, m.locator.locate m.captureStack m.stack, text⟩

theorem warningOf_eq (m : Manager) (key text : String) :
    m.warningOf key text
      = ⟨m.clock.seconds, key, m.locator.locate m.captureStack m.stack, text⟩ := by
  simp only [warningOf, name_logger]

/-- The warning to be raised, if there is a text for one and it is not held back. -/
def warning? (m : Manager) (key : String) (text : Option String) : Option Warning :=
  if m.testMode.isActive then none else text.map (m.warningOf key)

@[simp] theorem warning?_none (m : Manager) (key : String) : m.warning? key none = none := by
  simp [warning?]

/-- Logs the text of a warning and hands the warning to the application. -/
def raise (m : Manager) (site : Site) (key : String) (w : Warning) :
    Manager × List Event × Completion :=
  let (m, logged) := m.logAt site key Level.warning w.text
  let (m, events, completion) := m.escalate (.warning w)
  (m, logged ++ events, completion)

/--
Logs trouble with a connection and, if there is a text for it, raises a warning. Between
the two records the remote sink does not stand still: `meanwhile` is what it does there.
-/
def network (m : Manager) (site : Site) (key message : String) (warning : Option String)
    (meanwhile : List Remote.Action := []) : Manager × List Event × Completion :=
  let (m, logged) := m.logAt site key Level.network message
  match m.warning? key warning with
  | none => (m, logged, .done)
  | some w =>
    let (m, raised, completion) := (m.drift meanwhile).raise site key w
    (m, logged ++ raised, completion)

@[simp] theorem network_none (m : Manager) (site : Site) (key message : String)
    (meanwhile : List Remote.Action) :
    m.network site key message none meanwhile
      = ((m.logAt site key Level.network message).1,
          (m.logAt site key Level.network message).2, .done) := by
  simp only [network, warning?_none]

end Manager

end Herald
