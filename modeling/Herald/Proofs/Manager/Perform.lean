import Herald.Proofs.Manager.Building
import Herald.Proofs.Manager.Passing

/-!
# What an operation ships

An operation that raises a warning has two parts: the record of the trouble, and the
warning with a record of its own. In between the remote sink goes on by itself. Each
part ships the records that it makes and no others, and leaves the remote sink attached
as the manager attached it: once to every logger, also to those that are made later. The
one exception is an operation that attaches the remote sink itself.

A manager that is built with shipping on starts that way.
-/

namespace Herald

/-- The operation without the warning that it may raise. -/
def Operation.first : Operation → Operation
  | .network name message _ => .network name message none
  | o => o

/-- Whether an operation attaches the remote sink once more. -/
def Operation.attachesRemote : Operation → Bool
  | .attach _ .remote => true
  | _ => false

namespace Manager

/-- The remote sink stays attached, and exactly these records go into its queue. -/
structure Performs (m : Manager) (rs : List Record) (m' : Manager) (events : List Event) : Prop where
  attached : Attached m'
  clock : m'.clock = m.clock
  format : m'.format = m.format
  remote : ∀ s, m.remote = some s → m'.remote = some (s.emitAll (rs.map m.messageOf)).1
  signals : ∀ s, m.remote = some s → shipped events = (s.emitAll (rs.map m.messageOf)).2

section

variable {m m' : Manager} {rs rs' : List Record} {events more : List Event}

theorem Ships.performs (h : Ships m rs (m', events)) (hatt : Attached m) :
    Performs m rs m' events :=
  ⟨h.attached hatt, h.rules.clock, h.rules.format, h.remote, h.signals⟩

/-- The sink emits the records, and what it lets be seen of them is in the events. -/
theorem Performs.emitted (h : Performs m rs m' events) {s : Remote.Sink} (hs : m.remote = some s)
    (hu : s.uncounted = 0) :
    ∃ s', m'.remote = some s'
      ∧ Remote.Sink.Emitted s (rs.map m.messageOf) s' (shipped events) := by
  refine ⟨_, h.remote s hs, ?_⟩
  rw [h.signals s hs]
  exact Remote.Sink.emitted_emitAll hu _

/-- A change that ships nothing. -/
theorem Performs.quiet (hatt : Attached m') (hclock : m'.clock = m.clock)
    (hformat : m'.format = m.format) (hremote : m'.remote = m.remote) :
    Performs m [] m' [] :=
  ⟨hatt, hclock, hformat, fun _ hs => hremote.trans hs, fun _ _ => rfl⟩

end

variable {m : Manager}

/-! ## Loggers -/

/-- A change that keeps the name of a logger is seen by that name and by no other. -/
theorem logger_updateLogger (m : Manager) (key key' : String) {f : Logger → Logger}
    (hf : ∀ l, (f l).name = l.name) :
    (m.updateLogger key f).logger key' = if key = key' then f (m.logger key) else m.logger key' := by
  have hfresh : (m.updateLogger key f).freshLogger = m.freshLogger := rfl
  have hloggers : (m.updateLogger key f).loggers = m.loggers.set (f (m.logger key)) := rfl
  rw [logger, hfresh, hloggers, LoggerCache.get?_set, hf, name_logger]
  split
  case isTrue _ => rfl
  case isFalse _ => rfl

/-- Asking for a logger changes no logger. -/
theorem sameRules_getLogger (m : Manager) (name : String) :
    SameRules m (m.getLogger name).1 := by
  refine ⟨rfl, rfl, rfl, fun key => ?_, rfl, fun s => by cases s <;> rfl,
    fun s => by cases s <;> rfl, rfl, rfl, rfl⟩
  have h := logger_updateLogger m (loggerName name) key (f := id) fun _ => rfl
  refine Eq.trans h ?_
  split
  case isTrue hkey => rw [hkey]; rfl
  case isFalse _ => rfl

theorem logs_getLogger (m : Manager) (name : String) : Logs m [] ((m.getLogger name).1, []) :=
  .quiet (sameRules_getLogger m name) rfl rfl rfl

theorem Attached.getLogger (h : Attached m) (name : String) : Attached (m.getLogger name).1 :=
  (logs_getLogger m name).attached h

/-- What is logged through a logger that was only asked for makes the same records. -/
theorem Logs.afterGetLogger {site : Site} {name key message : String} {l : Level} {t : Traced}
    (h : Logs (m.getLogger name).1 ((m.getLogger name).1.logged site key l message) t) :
    Logs m (m.logged site key l message) t := by
  have hget := logs_getLogger m name
  rw [hget.rules.logged] at h
  have hboth := hget.trans h
  rwa [List.nil_append, List.nil_append] at hboth

/-- A change of a logger that leaves the remote sink in front of its sinks. -/
theorem Attached.updateLogger (h : Attached m) (key : String) {f : Logger → Logger}
    (hname : ∀ l, (f l).name = l.name) (hf : ∀ l rest, l.sinks = .remote :: rest → .remote ∉ rest →
      ∃ rest', (f l).sinks = .remote :: rest' ∧ .remote ∉ rest') :
    Attached (m.updateLogger key f) where
  there := h.there
  first key' := by
    rw [logger_updateLogger _ _ _ hname]
    split
    case isTrue _ =>
      obtain ⟨rest, hfirst, hrest⟩ := h.first key
      exact hf _ rest hfirst hrest
    case isFalse _ => exact h.first key'
  notRoot := h.notRoot

/-! ## Escalations -/

theorem logs_escalate (m : Manager) (e : Escalation) :
    Logs m [] ((m.escalate e).1, (m.escalate e).2.1) := by
  have hdeliver : ∀ (s : Slot) (t : Metrics), shipped (e.deliver m.accessor s t).2.2.1 = []
      ∧ (e.deliver m.accessor s t).2.1.records = t.records := by
    intro s t
    unfold Escalation.deliver
    split <;> exact ⟨rfl, rfl⟩
  obtain ⟨hshipped, hrecords⟩ := hdeliver m.slot m.metrics
  refine .quiet ?_ rfl hshipped hrecords
  exact ⟨rfl, rfl, rfl, fun _ => rfl, rfl, fun s => by cases s <;> rfl,
    fun s => by cases s <;> rfl, rfl, rfl, rfl⟩

/-- A notification makes its own record and what is relayed of it. -/
theorem logs_notify (hatt : Attached m) (site : Site) (key message : String) :
    Logs m (m.logged site key Level.notify message)
      ((m.notify site key message).1, (m.notify site key message).2.1) := by
  have hlog := logs_logAt hatt site key Level.notify message
  unfold notify
  generalize m.logAt site key Level.notify message = t at hlog ⊢
  obtain ⟨m₁, events⟩ := t
  dsimp only
  split
  case isTrue _ => exact hlog
  case isFalse _ =>
    have h := hlog.trans (logs_escalate m₁ (.notify (notificationText m₁.clock message)))
    rwa [List.append_nil] at h

/-- A warning that is raised makes the record of its text. -/
theorem logs_raise (hatt : Attached m) (site : Site) (key : String) (w : Warning) :
    Logs m (m.logged site key Level.warning w.text)
      ((m.raise site key w).1, (m.raise site key w).2.1) := by
  have hlog := logs_logAt hatt site key Level.warning w.text
  have h := hlog.trans (logs_escalate (m.logAt site key Level.warning w.text).1 (.warning w))
  rwa [List.append_nil] at h

/-! ## Operations in two parts -/

/-- A warning that is still to be logged and handed over. -/
structure Raising where
  site : Site
  key : String
  warning : Warning

/-- The warning that an operation leaves to be raised after its first record. -/
def raising? (m : Manager) (site : Site) : Operation → Option Raising
  | .network name _ text => (m.warning? (loggerName name) text).map (.mk site (loggerName name))
  | _ => none

/-- The records that are made when it is raised. -/
def raised (m : Manager) : Option Raising → List Record
  | some r => m.logged r.site r.key Level.warning r.warning.text
  | none => []

/-- An operation that raises a warning does so after it has done the rest, and then it ends. -/
theorem perform_eq (m : Manager) (site : Site) (o : Operation) (meanwhile : List Remote.Action) :
    m.perform site o meanwhile
      = match (m.perform site o.first).1.raising? site o with
        | none => m.perform site o.first
        | some r =>
          let t := m.perform site o.first
          let u := (t.1.drift meanwhile).raise r.site r.key r.warning
          (u.1, t.2.1 ++ u.2.1, u.2.2) := by
  cases o with
  | network name message text =>
      simp only [Operation.first, perform_network, network, warning?_none, raising?]
      cases ((m.getLogger name).1.logAt site (loggerName name) Level.network message).1.warning?
          (loggerName name) text with
      | none => rfl
      | some w => rfl
  | attach place s => cases place <;> simp only [Operation.first, raising?, perform]
  | _ => simp only [Operation.first, raising?, perform]

/-- Whether there is room for the record of a warning depends on what the worker does meanwhile. -/
example :
    let m := assemble .defaults { testMode := .forced false, clock := ⟨1, "", ""⟩ } Level.info
      (some (.ofCapacity "records" 1))
    let o : Operation := .network "x" "lost" (some "offline")
    (m.perform ⟨"app", 1⟩ o).1.remote.map (·.stats) = some ⟨1, 0, 0, 1⟩
      ∧ (m.perform ⟨"app", 1⟩ o [.take]).1.remote.map (·.stats) = some ⟨2, 0, 0, 0⟩ := by
  decide +kernel

theorem logs_perform_log (hatt : Attached m) (site : Site) (name : String) (l : Level)
    (message : String) :
    Logs m (m.passing site (.log name l message))
      ((m.perform site (.log name l message)).1, (m.perform site (.log name l message)).2.1) := by
  have hlog := logs_logAt (hatt.getLogger name) site (loggerName name) l message
  rw [perform_log]
  exact hlog.afterGetLogger

theorem logs_perform_notify (hatt : Attached m) (site : Site) (name message : String) :
    Logs m (m.passing site (.notify name message))
      ((m.perform site (.notify name message)).1, (m.perform site (.notify name message)).2.1) := by
  have hnotify := logs_notify (hatt.getLogger name) site (loggerName name) message
  rw [perform_notify]
  exact hnotify.afterGetLogger

/-- Trouble with a connection for which no warning is raised makes its own record. -/
theorem logs_perform_network (hatt : Attached m) (site : Site) (name message : String) :
    Logs m (m.passing site (.network name message none))
      ((m.perform site (.network name message none)).1,
        (m.perform site (.network name message none)).2.1) := by
  have hlog := logs_logAt (hatt.getLogger name) site (loggerName name) Level.network message
  simp only [passing, List.append_nil, perform_network, network_none]
  exact hlog.afterGetLogger

/-- **An operation ships exactly the records that it makes**, up to a warning that it raises. -/
theorem performs_first (hatt : Attached m) (site : Site) {o : Operation}
    (ho : o.attachesRemote = false) :
    Performs m (m.passing site o.first) (m.perform site o.first).1
      (m.perform site o.first).2.1 := by
  cases o with
  | getLogger name => exact (logs_getLogger m name).performs hatt
  | log name l message => exact (logs_perform_log hatt site name l message).performs hatt
  | notify name message => exact (logs_perform_notify hatt site name message).performs hatt
  | network name message warning => exact (logs_perform_network hatt site name message).performs hatt
  | setLoggerLevel name l =>
      have hset : Attached ((m.getLogger name).1.setLoggerLevel (loggerName name) l) :=
        (hatt.getLogger name).updateLogger _ (fun _ => rfl) fun _ rest h h' => ⟨rest, h, h'⟩
      dsimp only [Operation.first]
      rw [perform_setLoggerLevel]
      exact .quiet hset rfl rfl rfl
  | setLevel name l => exact .quiet ⟨hatt.there, hatt.first, hatt.notRoot⟩ rfl rfl rfl
  | clearLevel name => exact .quiet ⟨hatt.there, hatt.first, hatt.notRoot⟩ rfl rfl rfl
  | setRootLevel l => exact .quiet ⟨hatt.there, hatt.first, hatt.notRoot⟩ rfl rfl rfl
  | attach place s =>
      have hs : s ≠ .remote := by
        rintro rfl
        exact absurd ho (by simp [Operation.attachesRemote])
      cases place with
      | none =>
          refine .quiet ⟨hatt.there, hatt.first, ?_⟩ rfl rfl rfl
          change Sink.remote ∉ m.rootSinks ++ [s]
          rw [List.mem_append, not_or, List.mem_singleton]
          exact ⟨hatt.notRoot, Ne.symm hs⟩
      | some name =>
          have hadd : Attached ((m.getLogger name).1.addSink (loggerName name) s) := by
            refine (hatt.getLogger name).updateLogger _ (fun _ => rfl) fun l rest h h' => ⟨rest ++ [s], ?_, ?_⟩
            · rw [h, List.cons_append]
            · rw [List.mem_append, not_or, List.mem_singleton]
              exact ⟨h', Ne.symm hs⟩
          dsimp only [Operation.first]
          rw [perform_attach]
          exact .quiet hadd rfl rfl rfl
  | install a => exact .quiet ⟨hatt.there, hatt.first, hatt.notRoot⟩ rfl rfl rfl
  | clear => exact .quiet ⟨hatt.there, hatt.first, hatt.notRoot⟩ rfl rfl rfl

/-- **It counts exactly the records that it makes**, and changes no level name. -/
theorem counted_first (hatt : Attached m) (site : Site) (o : Operation) :
    (m.perform site o.first).1.names = m.names
      ∧ (m.perform site o.first).1.metrics.records
        = ((m.passing site o.first).map Record.levelName).foldl Tally.bump m.metrics.records := by
  have hlogs : ∀ {rs t}, Logs m rs t → t.1.names = m.names
      ∧ t.1.metrics.records = (rs.map Record.levelName).foldl Tally.bump m.metrics.records :=
    fun h => ⟨h.rules.names, h.counted⟩
  cases o with
  | log name l message => exact hlogs (logs_perform_log hatt site name l message)
  | notify name message => exact hlogs (logs_perform_notify hatt site name message)
  | network name message warning => exact hlogs (logs_perform_network hatt site name message)
  | attach place s => cases place <;> exact ⟨rfl, rfl⟩
  | _ => exact ⟨rfl, rfl⟩

/-! ## Building -/

/-- **A manager that is built with shipping on attaches its sink for the resolved topic.** -/
theorem attached_build {names : Registry} {p : Plan} {events : List Event}
    (hbuild : build names p = .ok (m, events)) (hon : p.config.remote.enabled = true) :
    Attached m ∧ m.clock = p.clock ∧ m.format = p.format
      ∧ m.remote = some (.ofCapacity p.config.remote.resolvedTopic
          p.config.remote.queueCapacity.toNat) := by
  obtain ⟨root, -, hbuilt⟩ := ((build_iff names p).1 _).mp hbuild
  obtain ⟨rfl, -⟩ := Prod.mk.inj hbuilt
  have hsink : p.sink? = some (.ofCapacity p.config.remote.resolvedTopic
      p.config.remote.queueCapacity.toNat) := if_pos hon
  rw [hsink]
  refine ⟨⟨rfl, fun key => ⟨[], rfl, by simp⟩, ?_⟩, rfl, rfl, rfl⟩
  simp only [assemble, List.mem_append, List.mem_map, not_or, not_exists]
  refine ⟨?_, by simp⟩
  split <;> simp

end Manager

end Herald
