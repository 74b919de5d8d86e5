import Herald.Caller
import Herald.Config.Basic
import Herald.Escalation.Escalator
import Herald.Escalation.TestRunner
import Herald.Remote.Uplink

/-!
# Managers and loggers

A manager hands out loggers by name. The same name, trimmed, always means the
same logger, and a blank name means the root logger. A logger has a threshold of
its own, none at first, and sinks of its own, of which the remote sink is the
first when records are shipped.

Beside its loggers a manager has thresholds for whole subtrees of names, sinks
that see the records of every logger, and what an escalation needs.
-/

namespace Herald

/-- Where records go. -/
inductive Sink where
  /-- Into the queue of the remote sink. -/
  | remote
  /-- To the console. -/
  | console
  /-- Into memory, under this number. -/
  | memory (id : Nat)
deriving DecidableEq

/-- A sink that logs on: what it does with each record that it did not cause itself. -/
structure Relay where
  logger : String
  level : Level
deriving DecidableEq

/-- A sink in memory and what it has received, oldest first. -/
structure MemorySink where
  threshold : Level := Level.notset
  relay : Option Relay := none
  records : List Record := []

/-- A logger. Its name never changes. -/
structure Logger where
  name : String
  /-- Its own threshold; `notset` means that it has none. -/
  level : Level := Level.notset
  sinks : List Sink := []
  /-- Whether the remote sink was attached when the logger was made. -/
  remoteAttached : Bool := false

/-- The loggers that have been made, each under its own name, in the order in which they were made. -/
structure LoggerCache where
  bindings : Table String Logger := []
  named : ∀ b ∈ bindings, b.2.name = b.1 := by simp

namespace LoggerCache

variable {c : LoggerCache} {l : Logger} {key : String}

/-- The logger under a name. -/
def get? (c : LoggerCache) (key : String) : Option Logger := Table.get? c.bindings key

/-- Keeps a logger under its name, in the place of the one that is there. -/
def set (c : LoggerCache) (l : Logger) : LoggerCache where
  bindings := Table.set c.bindings l.name l
  named b hb := by
    rcases Table.eq_or_mem_of_mem_set hb with rfl | hb
    · rfl
    · exact c.named b hb

/-- The logger that a name finds has this name. -/
theorem name_of_get? (h : c.get? key = some l) : l.name = key := c.named _ (Table.mem_of_get? h)

theorem get?_set (c : LoggerCache) (l : Logger) (key : String) :
    (c.set l).get? key = if l.name = key then some l else c.get? key :=
  Table.get?_set c.bindings l.name key l

theorem set_set {l' : Logger} (h : l'.name = l.name) : (c.set l).set l' = c.set l' := by
  simp only [set, h, Table.set_set]

end LoggerCache

/-- The state that all loggers of one manager share. -/
structure Manager where
  /-- The level names in force. -/
  names : Registry
  rootLevel : Level
  subtrees : Table String Level := []
  loggers : LoggerCache := {}
  rootSinks : List Sink := []
  memory : List MemorySink := []
  remote : Option Remote.Sink := none
  format : Format := Format.message
  accessor : Accessor := .slot
  slot : Slot := {}
  testMode : TestMode
  locator : Locator
  captureStack : Bool := false
  /-- What a walk up the stack finds now. -/
  stack : List Symbol := []
  clock : Clock
  metrics : Metrics := {}

namespace Manager

/-- The name that a logger asked for by `name` has. -/
def loggerName (name : String) : String :=
  if Text.isBlankText name then "root" else Text.trim name

/-- A logger as it starts. -/
def freshLogger (m : Manager) (key : String) : Logger :=
  match m.remote with
  | some _ => { name := key, sinks := [.remote], remoteAttached := true }
  | none => { name := key }

/-- The logger of a name as loggers have it, made when it is asked for first. -/
def logger (m : Manager) (key : String) : Logger := (m.loggers.get? key).getD (m.freshLogger key)

/-- What is handed out for a name has this name. -/
@[simp] theorem name_logger (m : Manager) (key : String) : (m.logger key).name = key := by
  rw [logger]
  cases hfound : m.loggers.get? key with
  | some l => exact LoggerCache.name_of_get? hfound
  | none =>
      rw [Option.getD_none, freshLogger]
      split <;> rfl

/-- Makes the logger asked for by `name` if there is none yet; it is known by its own name. -/
def getLogger (m : Manager) (name : String) : Manager × String :=
  let l := m.logger (loggerName name)
  ({ m with loggers := m.loggers.set l }, l.name)

/-- A logger is known by the name that its text denotes. -/
@[simp] theorem snd_getLogger (m : Manager) (name : String) :
    (m.getLogger name).2 = loggerName name := m.name_logger _

/-- How many loggers there are. -/
def loggerCount (m : Manager) : Nat := m.loggers.bindings.length

/-- Changes a logger. -/
def updateLogger (m : Manager) (key : String) (f : Logger → Logger) : Manager :=
  { m with loggers := m.loggers.set (f (m.logger key)) }

/-- Attaches a sink to a logger, after those it has. -/
def addSink (m : Manager) (key : String) (s : Sink) : Manager :=
  m.updateLogger key fun l => { l with sinks := l.sinks ++ [s] }

/-- Attaches a sink to all loggers, after those that are. -/
def addRootSink (m : Manager) (s : Sink) : Manager :=
  { m with rootSinks := m.rootSinks ++ [s] }

/-- A new sink in memory with its number. It is attached to nothing yet. -/
def addMemory (m : Manager) (s : MemorySink) : Manager × Nat :=
  ({ m with memory := m.memory ++ [s] }, m.memory.length)

/-- Changes a sink in memory. -/
def updateMemory (m : Manager) (id : Nat) (f : MemorySink → MemorySink) : Manager :=
  { m with memory := m.memory.modify id f }

end Manager

end Herald
