import Herald.Breakdown

/-!
# An in-process bus

Subscribers name a topic and get a queue of their own. A publish goes to every
subscriber of exactly that topic; one whose queue is full loses this message and
nothing else, and nobody waits. A subscriber that was dropped stays on the list
until the next publish on its topic.

The bus is one list of subscribers in the order in which they came. Each has a
number that is never used again. A bus can be told to give its subscribers more
room than there can be; then subscribing breaks off.
-/

namespace Herald

/-- A message as a subscriber gets it. -/
structure BusMessage where
  topic : String
  payload : ByteArray

/-- A subscription and what waits in it, oldest first. -/
structure Subscriber where
  id : Nat
  topic : String
  waiting : List BusMessage := []
  /-- Whether somebody still holds the receiving end. -/
  live : Bool := true

/-- All subscribers that the bus still knows. -/
structure Bus where
  /-- How many messages may wait in one subscription. -/
  capacity : Nat
  subscribers : List Subscriber := []
  nextId : Nat := 0

namespace Bus

/-- A bus without subscribers. A subscription always has room for one message. -/
def ofCapacity (capacity : Nat) : Bus := { capacity := max capacity 1 }

/-- The room in a subscription of a bus that says nothing else. -/
def defaultCapacity : Nat := 1024

/-- A new subscriber with its number. -/
def subscribe (b : Bus) (topic : String) : Bus × Nat :=
  ({ b with
      subscribers := b.subscribers ++ [{ id := b.nextId, topic }]
      nextId := b.nextId + 1 }, b.nextId)

/-- How many bytes one place in a subscription takes. -/
def slotSize : Nat := 56

/-- A new subscriber with its number, if the room for its queue can be had. -/
def trySubscribe (b : Bus) (topic : String) : Except Breakdown (Bus × Nat) :=
  match Capacity.fault? slotSize b.capacity with
  | some f => .error (.capacity f)
  | none => .ok (b.subscribe topic)

/-- Puts a message into a subscription that has room. -/
def offer (capacity : Nat) (m : BusMessage) (s : Subscriber) : Subscriber :=
  if s.waiting.length < capacity then { s with waiting := s.waiting ++ [m] } else s

/-- One subscriber's part in a publish: offered the message, or taken off the list. -/
def receive (capacity : Nat) (m : BusMessage) (s : Subscriber) : Option Subscriber :=
  if s.topic ≠ m.topic then some s
  else if s.live then some (offer capacity m s)
  else none

/-- Gives a message to everybody who listens to its topic. -/
def publish (b : Bus) (topic : String) (payload : ByteArray) : Bus :=
  { b with subscribers := b.subscribers.filterMap (receive b.capacity ⟨topic, payload⟩) }

/-- The subscriber with this number, if its receiving end is still held. -/
def find? (b : Bus) (id : Nat) : Option Subscriber :=
  b.subscribers.find? fun s => s.id = id ∧ s.live

/-- Changes one subscriber. -/
def update (b : Bus) (id : Nat) (f : Subscriber → Subscriber) : Bus :=
  { b with subscribers := b.subscribers.map fun s => if s.id = id then f s else s }

/-- Takes the oldest message out of a subscription. -/
def take? (b : Bus) (id : Nat) : Option (BusMessage × Bus) :=
  match b.find? id with
  | some s =>
    match s.waiting with
    | m :: rest => some (m, b.update id fun s => { s with waiting := rest })
    | [] => none
  | none => none

/-- Takes everything out of a subscription. -/
def drain (b : Bus) (id : Nat) : List BusMessage × Bus :=
  match b.find? id with
  | some s => (s.waiting, b.update id fun s => { s with waiting := [] })
  | none => ([], b)

/-- Lets go of the receiving end; what waited is lost. -/
def drop (b : Bus) (id : Nat) : Bus := b.update id fun s => { s with live := false, waiting := [] }

/-- How many subscribers the bus knows for a topic, dropped ones included. -/
def count (b : Bus) (topic : String) : Nat :=
  (b.subscribers.filter fun s => s.topic = topic).length

end Bus

end Herald
