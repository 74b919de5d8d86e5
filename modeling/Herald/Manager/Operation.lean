import Herald.Manager.Logging

/-!
# Operations on a manager

Everything that is done to a manager from outside, as data. A logger is named by
the text it is asked for with; whatever names one makes it first if there is
none. A run is a list of operations.
-/

namespace Herald

/-- One operation. -/
inductive Operation where
  | getLogger (logger : String)
  | log (logger : String) (level : Level) (message : String)
  | notify (logger message : String)
  /-- Trouble with a connection, with the text of the warning if one is to be raised. -/
  | network (logger message : String) (warning : Option String)
  | setLoggerLevel (logger : String) (level : Level)
  | setLevel (name : String) (level : Level)
  | clearLevel (name : String)
  | setRootLevel (level : Level)
  /-- Attaches a sink to a logger, or to all of them. -/
  | attach (logger : Option String) (sink : Sink)
  | install (application : Application)
  | clear
deriving DecidableEq

namespace Manager

/--
Does an operation; an application may break down over it. `meanwhile` is what the remote
sink does before an operation raises a warning.
-/
def perform (site : Site) (m : Manager) (o : Operation)
    (meanwhile : List Remote.Action := []) : Manager × List Event × Completion :=
  match o with
  | .getLogger name => ((m.getLogger name).1, [], .done)
  | .log name l message =>
    let (m, key) := m.getLogger name
    let (m, events) := m.logAt site key l message
    (m, events, .done)
  | .notify name message =>
    let (m, key) := m.getLogger name
    m.notify site key message
  | .network name message warning =>
    let (m, key) := m.getLogger name
    m.network site key message warning meanwhile
  | .setLoggerLevel name l =>
    let (m, key) := m.getLogger name
    (m.setLoggerLevel key l, [], .done)
  | .setLevel name l => (m.setLevel name l, [], .done)
  | .clearLevel name => (m.clearLevel name, [], .done)
  | .setRootLevel l => (m.setRootLevel l, [], .done)
  | .attach none s => (m.addRootSink s, [], .done)
  | .attach (some name) s =>
    let (m, key) := m.getLogger name
    (m.addSink key s, [], .done)
  | .install a => ({ m with slot := m.slot.install a }, [], .done)
  | .clear => ({ m with slot := m.slot.clear }, [], .done)

section

variable (site : Site) (m : Manager) (name message : String) (meanwhile : List Remote.Action)

theorem perform_log (l : Level) :
    m.perform site (.log name l message) meanwhile
      = (((m.getLogger name).1.logAt site (loggerName name) l message).1,
          ((m.getLogger name).1.logAt site (loggerName name) l message).2, .done) := by
  simp only [perform, snd_getLogger]

theorem perform_notify :
    m.perform site (.notify name message) meanwhile
      = (m.getLogger name).1.notify site (loggerName name) message := by
  simp only [perform, snd_getLogger]

theorem perform_network (warning : Option String) :
    m.perform site (.network name message warning) meanwhile
      = (m.getLogger name).1.network site (loggerName name) message warning meanwhile := by
  simp only [perform, snd_getLogger]

theorem perform_setLoggerLevel (l : Level) :
    m.perform site (.setLoggerLevel name l) meanwhile
      = ((m.getLogger name).1.setLoggerLevel (loggerName name) l, [], .done) := by
  simp only [perform, snd_getLogger]

theorem perform_attach (s : Sink) :
    m.perform site (.attach (some name) s) meanwhile
      = ((m.getLogger name).1.addSink (loggerName name) s, [], .done) := by
  simp only [perform, snd_getLogger]

end

/-- Does operations in order, each to its end. -/
def performAll (site : Site) (m : Manager) : List Operation → Manager × List Event
  | [] => (m, [])
  | o :: rest =>
    let (m, events, _) := m.perform site o
    let (m, more) := performAll site m rest
    (m, events ++ more)

end Manager

end Herald
