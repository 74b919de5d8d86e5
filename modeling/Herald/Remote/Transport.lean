import Herald.Bus
import Herald.Remote.Sink

/-!
# Transports

What the worker hands a message to. The bus always takes it; the others fail in
one particular way each, to see what the sink makes of it. A publish that does
not return is one without an outcome yet.
-/

namespace Herald.Remote

/-- A way to fail. -/
inductive Failure where
  | reject (reason : String)
  | disconnect (cause : String)
  | panic
deriving DecidableEq

/-- How a publish on a topic ends that fails in this way. -/
def Failure.outcome (topic : String) : Failure → Outcome
  | .reject reason => .failed (.rejected topic reason)
  | .disconnect cause => .failed (.io cause)
  | .panic => .panicked

/-- A transport, with what it remembers. -/
inductive Transport where
  /-- Everything goes to the bus. -/
  | bus
  /-- The first rule whose word occurs in the payload decides; the rest goes to the bus. -/
  | screened (rules : List (String × Failure))
  /-- Nothing gets through. -/
  | refusing (reason : String) (attempts : Nat)
  /-- The first publish breaks down; later ones succeed, and go nowhere. -/
  | panicOnce (attempts : Nat)
  /-- A publish returns only once the transport is released; it succeeds, and goes nowhere. -/
  | blocking (released : Bool) (attempts : Nat)
deriving DecidableEq

/-- Whether a run of bytes occurs in another. -/
def occursIn (word : List UInt8) : List UInt8 → Bool
  | [] => word.isEmpty
  | b :: r => word.isPrefixOf (b :: r) || occursIn word r

/-- A transport and the bus behind it. -/
structure Carrier where
  transport : Transport
  bus : Bus

namespace Carrier

/-- A publish begins; its outcome, unless it does not return yet. -/
def publish (c : Carrier) (topic : String) (payload : ByteArray) : Carrier × Option Outcome :=
  let toBus : Carrier × Option Outcome :=
    ({ c with bus := c.bus.publish topic payload }, some .published)
  match c.transport with
  | .bus => toBus
  | .screened rules =>
    match rules.find? fun r => occursIn r.1.toUTF8.toList payload.toList with
    | some (_, failure) => (c, some (failure.outcome topic))
    | none => toBus
  | .refusing reason n =>
    ({ c with transport := .refusing reason (n + 1) },
      some ((Failure.reject reason).outcome topic))
  | .panicOnce n =>
    ({ c with transport := .panicOnce (n + 1) }, some (if n = 0 then .panicked else .published))
  | .blocking released n =>
    ({ c with transport := .blocking released (n + 1) },
      if released then some .published else none)

/-- The outcome of a publish that did not return at first, if it returns now. -/
def outcome? (c : Carrier) : Option Outcome :=
  match c.transport with
  | .blocking false _ => none
  | _ => some .published

/-- Lets every publish return. -/
def release (c : Carrier) : Carrier :=
  match c.transport with
  | .blocking _ n => { c with transport := .blocking true n }
  | _ => c

/-- How many publishes have begun, where the transport counts them. -/
def attempts? (c : Carrier) : Option Nat :=
  match c.transport with
  | .refusing _ n | .panicOnce n | .blocking _ n => some n
  | .bus | .screened _ => none

end Carrier

end Herald.Remote
