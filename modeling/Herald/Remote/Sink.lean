import Herald.Error
import Herald.Wire.Message

/-!
# The remote sink

A bounded queue between the callers, who must never wait for the network, and
one worker, which takes commands out of the queue one at a time and hands the
messages among them to the transport. A message that finds the queue full or the
sink closed is dropped and counted.

Flushing puts a marker into the queue and waits until the worker reaches it;
closing first bars further messages, then flushes, then tells the worker to stop
and waits for it. Both give up when their time is over, wherever they stand; a
marker of a caller that gave up stays in the queue and is passed over.

The sink is a transition system. An `Action` is a step of one caller or of the
worker that nothing else can come between; `step` says what it does and what it
lets be seen, or that it cannot happen now. Any order of enabled actions is a
run. `Remote.Uplink` picks one order to drive a sink with.
-/

namespace Herald.Remote

/-- What waits in the queue. -/
inductive Command where
  | publish (m : Message)
  /-- The marker of a call that waits for everything ahead of it. -/
  | flush (ticket : Nat)
  /-- The worker ends here. -/
  | stop
deriving DecidableEq

/-- What the worker is doing. -/
inductive Worker where
  | idle
  /-- Inside a publish whose outcome is not counted yet. -/
  | publishing (m : Message)
  | stopped
deriving DecidableEq

/-- How a publish ended. -/
inductive Outcome where
  | published
  /-- With an error, whose text can be written down without breaking down. -/
  | failed (e : TransportError)
  /-- It broke down. What it broke down with can be thrown away without breaking down again. -/
  | panicked
deriving DecidableEq

/-- Where a call that waits stands. -/
inductive Phase where
  /-- Its marker is not in the queue yet. -/
  | entering
  /-- Its marker is in the queue. -/
  | waiting
  /-- The worker reached its marker. -/
  | reached
  /-- A close whose flush succeeded and whose stop is not in the queue yet. -/
  | stopping
  /-- A close that waits for the worker to end. -/
  | joining
deriving DecidableEq

/-- A flush or a close that has not returned yet. -/
structure Call where
  ticket : Nat
  closing : Bool
  phase : Phase
deriving DecidableEq

/-- How a flush or a close ends. -/
inductive Ending where
  /-- A flush that got through. -/
  | flushed
  /-- A flush whose time was over. -/
  | flushTimedOut
  /-- A flush of a sink that was closed already. -/
  | flushRefused
  /-- A close that got through to the end of the worker. -/
  | closed
  /-- A close whose time was over. -/
  | closeTimedOut
  /-- A close of a sink that was closed already. -/
  | closedBefore
deriving DecidableEq

/-- What the caller is told. -/
def Ending.answer : Ending → Bool
  | .flushed | .closed | .closedBefore => true
  | .flushTimedOut | .flushRefused | .closeTimedOut => false

/-- What a step lets be seen. -/
inductive Signal where
  /-- A message got into the queue. -/
  | accepted (m : Message)
  /-- A message was dropped. -/
  | dropped (m : Message)
  /-- The worker called the transport. -/
  | handed (topic : String) (payload : ByteArray)
  /-- The outcome of a publish was counted. -/
  | finished (o : Outcome)
  /-- A call returned. -/
  | returned (ticket : Nat) (e : Ending)

/-- The counts of a sink. -/
structure Stats where
  queued : Nat := 0
  published : Nat := 0
  failed : Nat := 0
  dropped : Nat := 0
deriving DecidableEq

/-- A remote sink. -/
structure Sink where
  topic : String
  /-- How many commands may wait; at least one. -/
  capacity : Nat
  queue : List Command := []
  worker : Worker := .idle
  closed : Bool := false
  /-- Messages that are in the queue and not yet counted as queued by their callers. -/
  uncounted : Nat := 0
  calls : List Call := []
  nextTicket : Nat := 0
  stats : Stats := {}
deriving DecidableEq

/-- A sink for a topic, with room for at least one command. -/
def Sink.ofCapacity (topic : String) (capacity : Nat) : Sink :=
  { topic, capacity := max capacity 1 }

/-- How many bytes one place in the queue takes. -/
def Sink.slotSize : Nat := 96

/-- A sink for a topic, if the room for its queue can be had. -/
def Sink.tryOfCapacity (topic : String) (capacity : Nat) : Except Breakdown Sink :=
  match Capacity.fault? slotSize (max capacity 1) with
  | some f => .error (.capacity f)
  | none => .ok (.ofCapacity topic capacity)

/-- A step that nothing can come between. -/
inductive Action where
  /-- A logging call tries to put a message into the queue. -/
  | offer (m : Message)
  /-- A logging call whose message got in counts it. -/
  | count
  /-- A flush begins. -/
  | beginFlush
  /-- A close begins; it waits for logging calls that are not through yet. -/
  | beginClose
  /-- A marker gets into the queue. -/
  | mark (ticket : Nat)
  /-- A call goes on from its reached marker. -/
  | proceed (ticket : Nat)
  /-- The stop of a close gets into the queue. -/
  | sendStop (ticket : Nat)
  /-- A close finds that the worker has ended. -/
  | join (ticket : Nat)
  /-- The time of a call is over. -/
  | expire (ticket : Nat)
  /-- The worker takes the next command. -/
  | take
  /-- The transport returns, or breaks down. -/
  | finish (o : Outcome)
deriving DecidableEq

namespace Sink

/-- Whether a command can be put into the queue. -/
def hasRoom (s : Sink) : Bool := s.queue.length < s.capacity

/-- Puts a command at the end of the queue. -/
def enqueue (s : Sink) (c : Command) : Sink := { s with queue := s.queue ++ [c] }

/-- The call with this ticket. -/
def call? (s : Sink) (ticket : Nat) : Option Call := s.calls.find? fun c => c.ticket = ticket

/-- Moves the call with this ticket to another phase. -/
def advance (s : Sink) (ticket : Nat) (phase : Phase) : Sink :=
  { s with calls := s.calls.map fun c => if c.ticket = ticket then { c with phase } else c }

/-- The call with this ticket returns. -/
def dismiss (s : Sink) (ticket : Nat) (e : Ending) : Sink × List Signal :=
  ({ s with calls := s.calls.filter fun c => c.ticket ≠ ticket }, [.returned ticket e])

/-- A new call, its marker not in the queue yet. -/
def enroll (s : Sink) (closing : Bool) : Sink :=
  { s with
    calls := s.calls ++ [⟨s.nextTicket, closing, .entering⟩]
    nextTicket := s.nextTicket + 1 }

/-- A message is dropped and counted. -/
def drop (s : Sink) (m : Message) : Sink × List Signal :=
  ({ s with stats := { s.stats with dropped := s.stats.dropped + 1 } }, [.dropped m])

/-- The outcome of a publish in the counts. -/
def Stats.tally (t : Stats) : Outcome → Stats
  | .published => { t with published := t.published + 1 }
  | .failed _ | .panicked => { t with failed := t.failed + 1 }

/-- The worker reaches a marker. Nobody may be waiting for it any more. -/
def reach (s : Sink) (ticket : Nat) : Sink :=
  match s.call? ticket with
  | some ⟨_, _, .waiting⟩ => s.advance ticket .reached
  | _ => s

/-- What an action does, if it can happen now. -/
def step (s : Sink) : Action → Option (Sink × List Signal)
  | .offer m =>
    if s.closed then some (s.drop m)
    else if s.hasRoom then
      some ({ s.enqueue (.publish m) with uncounted := s.uncounted + 1 }, [.accepted m])
    else some (s.drop m)
  | .count =>
    if 0 < s.uncounted then
      some ({ s with
        uncounted := s.uncounted - 1
        stats := { s.stats with queued := s.stats.queued + 1 } }, [])
    else none
  | .beginFlush =>
    if s.closed then
      some ({ s with nextTicket := s.nextTicket + 1 }, [.returned s.nextTicket .flushRefused])
    else some (s.enroll false, [])
  | .beginClose =>
    if 0 < s.uncounted then none
    else if s.closed then
      some ({ s with nextTicket := s.nextTicket + 1 }, [.returned s.nextTicket .closedBefore])
    else some ({ s with closed := true }.enroll true, [])
  | .mark ticket =>
    match s.call? ticket with
    | some ⟨_, _, .entering⟩ =>
      if s.hasRoom ∧ s.worker ≠ .stopped then
        some ((s.enqueue (.flush ticket)).advance ticket .waiting, [])
      else none
    | _ => none
  | .proceed ticket =>
    match s.call? ticket with
    | some ⟨_, false, .reached⟩ => some (s.dismiss ticket .flushed)
    | some ⟨_, true, .reached⟩ => some (s.advance ticket .stopping, [])
    | _ => none
  | .sendStop ticket =>
    match s.call? ticket with
    | some ⟨_, _, .stopping⟩ =>
      if s.hasRoom ∧ s.worker ≠ .stopped then
        some ((s.enqueue .stop).advance ticket .joining, [])
      else none
    | _ => none
  | .join ticket =>
    match s.call? ticket with
    | some ⟨_, _, .joining⟩ =>
      if s.worker = .stopped then some (s.dismiss ticket .closed) else none
    | _ => none
  | .expire ticket =>
    match s.call? ticket with
    | some ⟨_, closing, .entering⟩ | some ⟨_, closing, .waiting⟩ =>
      some (s.dismiss ticket (if closing then .closeTimedOut else .flushTimedOut))
    | some ⟨_, _, .stopping⟩ => some (s.dismiss ticket .closeTimedOut)
    | _ => none
  | .take =>
    match s.worker, s.queue with
    | .idle, .publish m :: rest =>
      some ({ s with queue := rest, worker := .publishing m }, [.handed s.topic m.encode])
    | .idle, .flush ticket :: rest => some ({ s with queue := rest }.reach ticket, [])
    | .idle, .stop :: rest => some ({ s with queue := rest, worker := .stopped }, [])
    | _, _ => none
  | .finish o =>
    match s.worker with
    | .publishing _ =>
      some ({ s with worker := .idle, stats := Stats.tally s.stats o }, [.finished o])
    | _ => none

end Sink

end Herald.Remote
