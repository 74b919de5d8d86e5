import Herald.Diagnostic
import Herald.Remote.Transport

/-!
# Driving a sink

One caller and the worker, taking turns: the worker runs until the queue is
empty or the transport does not return, and then the caller makes its next move.
A call waits no longer than that, so against a transport that does not return it
gives up.

Every move is a `step` of the sink, so whatever holds of all runs holds here.
-/

namespace Herald.Remote

/-- Does an action if it can happen now. -/
def Sink.attempt (s : Sink) (a : Action) : Sink × List Signal := (s.step a).getD (s, [])

/-- A message goes into the queue and is counted, or is dropped. -/
def Sink.emit (s : Sink) (m : Message) : Sink × List Signal :=
  let (s, offered) := s.attempt (.offer m)
  let (s, counted) := s.attempt .count
  (s, offered ++ counted)

/-- A sink and what it ships with. -/
structure Uplink where
  sink : Sink
  carrier : Carrier

namespace Uplink

/-- An action of the sink alone. -/
def attempt (u : Uplink) (a : Action) : Uplink × List Signal :=
  let (sink, signals) := u.sink.attempt a
  ({ u with sink }, signals)

/-- The next move of the worker; none when it has nothing to do or the transport holds it. -/
def work? (u : Uplink) : Option (Uplink × List Signal) :=
  match u.sink.worker with
  | .publishing _ => u.carrier.outcome?.map fun o => u.attempt (.finish o)
  | _ =>
    match u.sink.step .take with
    | none => none
    | some (sink, signals) =>
      match sink.worker with
      | .publishing m =>
        let (carrier, outcome) := u.carrier.publish sink.topic m.encode
        let u : Uplink := ⟨sink, carrier⟩
        match outcome with
        | none => some (u, signals)
        | some o =>
          let (u, finished) := u.attempt (.finish o)
          some (u, signals ++ finished)
      | _ => some (⟨sink, u.carrier⟩, signals)

/-- The worker runs for at most this many moves. -/
def run (u : Uplink) : Nat → Uplink × List Signal
  | 0 => (u, [])
  | moves + 1 =>
    match u.work? with
    | none => (u, [])
    | some (u, signals) =>
      let (u, more) := run u moves
      (u, signals ++ more)

/--
The worker runs until it has nothing to do or is held. Each move ends a publish
that was held or takes a command, so there is at most one more than commands.
-/
def settle (u : Uplink) : Uplink × List Signal := u.run (u.sink.queue.length + 1)

/-- A move of the caller, then the worker runs. -/
def turn (u : Uplink) (a : Action) : Uplink × List Signal :=
  let (u, first) := u.attempt a
  let (u, rest) := u.settle
  (u, first ++ rest)

/-- Moves of the caller in turn with the worker. -/
def turns (u : Uplink) : List Action → Uplink × List Signal
  | [] => (u, [])
  | a :: rest =>
    let (u, first) := u.turn a
    let (u, more) := turns u rest
    (u, first ++ more)

/-- A message is shipped. -/
def emit (u : Uplink) (m : Message) : Uplink × List Signal :=
  let (sink, first) := u.sink.emit m
  let (u, rest) := settle { u with sink }
  (u, first ++ rest)

/-- How the call with this ticket ended. -/
def ending? (ticket : Nat) : List Signal → Option Ending
  | [] => none
  | .returned t e :: rest => if t = ticket then some e else ending? ticket rest
  | _ :: rest => ending? ticket rest

/-- Waits until everything queued so far has been handed over. -/
def flush (u : Uplink) : Uplink × List Signal × Bool :=
  let t := u.sink.nextTicket
  let (u, signals) := u.turns [.beginFlush, .mark t, .proceed t, .expire t]
  (u, signals, ((ending? t signals).map Ending.answer).getD false)

/-- Bars further messages, flushes and ends the worker. -/
def close (u : Uplink) : Uplink × List Signal × Bool :=
  let t := u.sink.nextTicket
  let (u, signals) :=
    u.turns [.beginClose, .mark t, .proceed t, .sendStop t, .join t, .expire t]
  (u, signals, ((ending? t signals).map Ending.answer).getD false)

/-- Lets every publish return, and the worker run on. -/
def release (u : Uplink) : Uplink × List Signal := settle { u with carrier := u.carrier.release }

end Uplink

/-! ## What the sink says -/

namespace Signal

private def say (topic : String) (severity : Severity) (message : String)
    (fields : List (String × FieldValue)) : Diagnostic :=
  { severity, target := "tidings_core::sink::remote", message
    fields := ("topic", .bare topic) :: fields }

/-- What the worker says about a signal. -/
def ofWorker? (topic : String) : Signal → Option Diagnostic
  | .finished (.failed e) =>
    some (say topic .warn "failed to publish remote log message" [("error", .bare e.message)])
  | .finished .panicked =>
    some (say topic .error "transport panicked while publishing remote log message" [])
  | _ => none

/-- What a caller says about a signal. -/
def ofCaller? (topic : String) : Signal → Option Diagnostic
  | .returned _ .closed => some (say topic .debug "remote log sink closed" [])
  | .returned _ .closeTimedOut =>
    some (say topic .warn "remote log sink did not drain before close" [])
  | _ => none

end Signal

/-- What is said when a sink starts. -/
def startedDiagnostic (topic : String) : Diagnostic :=
  { severity := .debug, target := "tidings_core::sink::remote"
    message := "remote log sink started", fields := [("topic", .bare topic)] }

end Herald.Remote
