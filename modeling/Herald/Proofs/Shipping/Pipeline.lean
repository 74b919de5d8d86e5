import Herald.Manager.Shipping
import Herald.Proofs.Bus.Subscription
import Herald.Proofs.Manager.Perform

/-!
# From a logging call to a subscription

A manager, the worker of its remote sink and a bus, taken together. Callers log
and change thresholds, the worker takes messages and hands them to the bus, the
clock goes on, others flush, close, subscribe, receive, leave, and publish on the
same bus: all in any order, one `Step` at a time. An operation that raises a warning
takes two steps, for it makes two records and anything can happen between them, other
operations too.

A run keeps its `History`: each state with the move that was made in it. What
passed, what reached the bus and what a subscriber received is read off it.

Two invariants follow the records through. `Tracks` takes them from the calls to
the bus: the sink has been offered exactly the records that passed, and the bus has
what the sink handed over. `Follows` takes them from the bus to one subscription.
-/

namespace Herald

/-- A time as a clock gives it that counts whole seconds in 64 bits: below `2^65`. -/
def Clock.InRange (c : Clock) : Prop := Decimal.exponentBits c.seconds ≤ 1087

instance (c : Clock) : Decidable c.InRange := inferInstanceAs (Decidable (_ ≤ _))

/-- What a subscriber can learn about a record: logger, rank, level name and text. -/
abbrev Entry := String × UInt32 × String × String

/-- What a message says about its record. -/
def Message.entry (m : Message) : Entry := (m.loggerName, m.levelNo, m.levelName, m.msg)

/-- What is to be learned about a record in a format. -/
def Record.entry (format : Format) (r : Record) : Entry :=
  (r.logger, r.level.rank, r.levelName, format r)

/-- A manager that ships, and what it ships over. -/
structure Pipeline where
  manager : Manager
  carrier : Remote.Carrier
  /-- How the publish that the worker is in ended, once the transport has returned from it. -/
  outcome : Option Remote.Outcome := none
  /-- The warnings that are still to be raised by operations that are half-way. -/
  raising : List Manager.Raising := []

namespace Pipeline

open Remote (Action Outcome Signal)

/-- What can happen next. -/
inductive Move where
  /-- An operation on the manager. If it raises a warning, it is half-way then. -/
  | operate (site : Site) (o : Operation)
  /-- The operation half-way at this place raises its warning and ends. -/
  | raise (i : Nat)
  /-- The clock goes on. -/
  | tick (now : Clock)
  /-- The worker takes a command, or a flush or a close goes on. -/
  | sink (a : Action)
  /-- The transport puts the message that the worker came with on the bus. -/
  | publish
  /-- The worker counts how its publish ended. -/
  | finish
  | subscribe (topic : String)
  | receive (id : Nat)
  | drop (id : Nat)
  /-- Somebody else publishes. -/
  | elsewhere (topic : String) (payload : ByteArray)

/-- Whether an action of the sink is a move of its own. Emits are part of logging calls. -/
def ownAction : Action → Bool
  | .offer _ | .count | .finish _ => false
  | _ => true

/-- The moves and what they do. -/
inductive Step (p : Pipeline) : Move → Pipeline → Prop where
  | operate (site : Site) (o : Operation) :
      Step p (.operate site o)
        { p with
          manager := (p.manager.perform site o.first).1
          raising := p.raising ++ ((p.manager.perform site o.first).1.raising? site o).toList }
  | raise {r : Manager.Raising} (i : Nat) (hr : p.raising[i]? = some r) :
      Step p (.raise i)
        { p with
          manager := (p.manager.raise r.site r.key r.warning).1
          raising := p.raising.eraseIdx i }
  | tick (now : Clock) : Step p (.tick now) { p with manager := { p.manager with clock := now } }
  | sink {s s' : Remote.Sink} {out : List Signal} (a : Action) (hs : p.manager.remote = some s)
      (ha : ownAction a = true) (hstep : s.step a = some (s', out)) :
      Step p (.sink a) { p with manager := p.manager.withRemote s' out }
  | publish {s : Remote.Sink} {m : Message} (hs : p.manager.remote = some s)
      (hw : s.worker = .publishing m) (ho : p.outcome = none) :
      Step p .publish
        { p with
          carrier := (p.carrier.publish s.topic m.encode).1
          outcome := (p.carrier.publish s.topic m.encode).2 }
  | finish {s s' : Remote.Sink} {out : List Signal} {o : Outcome}
      (hs : p.manager.remote = some s) (ho : p.outcome = some o)
      (hstep : s.step (.finish o) = some (s', out)) :
      Step p .finish { p with manager := p.manager.withRemote s' out, outcome := none }
  | subscribe {bus : Bus} {id : Nat} (topic : String)
      (h : p.carrier.bus.trySubscribe topic = .ok (bus, id)) :
      Step p (.subscribe topic) { p with carrier := { p.carrier with bus } }
  | receive {bus : Bus} {m : BusMessage} (id : Nat) (h : p.carrier.bus.take? id = some (m, bus)) :
      Step p (.receive id) { p with carrier := { p.carrier with bus } }
  | drop (id : Nat) :
      Step p (.drop id) { p with carrier := { p.carrier with bus := p.carrier.bus.drop id } }
  | elsewhere (topic : String) (payload : ByteArray) :
      Step p (.elsewhere topic payload)
        { p with carrier := { p.carrier with bus := p.carrier.bus.publish topic payload } }

/-- The moves made so far, each with the state in which it was made. -/
abbrev History := List (Pipeline × Move)

/-- The runs from a state. -/
inductive Run (p₀ : Pipeline) : History → Pipeline → Prop where
  | start : Run p₀ [] p₀
  | next {h : History} {p p' : Pipeline} {a : Move} :
      Run p₀ h p → Step p a p' → Run p₀ (h ++ [(p, a)]) p'

/-! ## What a history tells -/

/-- The records that pass their logger's threshold in a move, read in a format. -/
def passedIn (format : Format) : Pipeline × Move → List Entry
  | (p, .operate site o) => (p.manager.passing site o.first).map (Record.entry format)
  | (p, .raise i) => (p.manager.raised p.raising[i]?).map (Record.entry format)
  | _ => []

/-- The records that passed, in order. -/
def passed (format : Format) (h : History) : List Entry := h.flatMap (passedIn format)

/-- What a move puts on the bus for the manager. -/
def publishedIn : Pipeline × Move → List (String × ByteArray)
  | (p, .publish) =>
    match p.manager.remote with
    | some s => (s.worker.message?.map (Remote.Message.addressed s.topic)).toList
    | none => []
  | _ => []

/-- What the bus got from the manager, in order. -/
def published (h : History) : List (String × ByteArray) := h.flatMap publishedIn

/-- What a subscriber receives in a move. -/
def receivedIn (id : Nat) : Pipeline × Move → List BusMessage
  | (p, .receive id') => if id' = id then ((p.carrier.bus.take? id).map Prod.fst).toList else []
  | _ => []

/-- What a subscriber received, in order. -/
def received (id : Nat) (h : History) : List BusMessage := h.flatMap (receivedIn id)

/-- What waits in a subscription. -/
def waiting (id : Nat) (p : Pipeline) : List BusMessage :=
  ((p.carrier.bus.find? id).map (·.waiting)).getD []

/-- The payloads that a subscription got, received or still waiting. -/
def delivered (id : Nat) (h : History) (p : Pipeline) : List ByteArray :=
  (received id h ++ p.waiting id).map BusMessage.payload

/-- The subscription had room at every publish. -/
def NeverFull (id : Nat) (h : History) : Prop :=
  ∀ p, (p, Move.publish) ∈ h → (p.waiting id).length < p.carrier.bus.capacity

/-- Nothing that got into the queue is still on its way to the bus. -/
def HandedOver (p : Pipeline) : Prop :=
  ∀ s, p.manager.remote = some s →
    s.waiting = [] ∧ (s.worker.message?.isSome = true → p.outcome.isSome = true)

/--
A move as it has to be: only the manager attaches its remote sink, the clock stays
in range, nobody else publishes on the topic, and the subscription is kept.
-/
def Proper (topic : String) (id : Nat) : Move → Prop
  | .operate _ o => o.attachesRemote = false
  | .tick now => now.InRange
  | .elsewhere topic' _ => topic' ≠ topic
  | .drop id' => id' ≠ id
  | _ => True

/-- Whether a move is a logging call. -/
def Move.logs : Move → Bool
  | .operate _ (.log ..) | .operate _ (.notify ..) | .operate _ (.network ..) | .raise _ => true
  | _ => false

end Pipeline

end Herald
