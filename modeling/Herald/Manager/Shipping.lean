import Herald.Manager.Logging

/-!
# A manager and its carrier

The remote sink of a manager works against a carrier that the manager does not
know. Here both are together: the worker runs, and calls that wait for it are
made, on the sink inside the manager, and every outcome reaches the manager's
metrics.
-/

namespace Herald.Manager

/-- Lets something happen at the remote sink, if there is one; the signals are counted. -/
def atRemote {α : Type} (m : Manager) (c : Remote.Carrier)
    (act : Remote.Uplink → Remote.Uplink × List Remote.Signal × α) :
    Option (Manager × Remote.Carrier × List Remote.Signal × α) :=
  match m.remote with
  | none => none
  | some s =>
    let (u, signals, a) := act ⟨s, c⟩
    some (m.withRemote u.sink signals, u.carrier, signals, a)

/-- The worker runs until it has nothing to do or is held. -/
def settle (m : Manager) (c : Remote.Carrier) : Manager × Remote.Carrier × List Remote.Signal :=
  match m.atRemote c fun u => let (u, signals) := u.settle; (u, signals, ()) with
  | some (m, c, signals, _) => (m, c, signals)
  | none => (m, c, [])

/-- Closes the remote sink; without one there is nothing to wait for. -/
def shutdown (m : Manager) (c : Remote.Carrier) :
    Manager × Remote.Carrier × List Remote.Signal × Bool :=
  (m.atRemote c fun u => u.close).getD (m, c, [], true)

end Herald.Manager
