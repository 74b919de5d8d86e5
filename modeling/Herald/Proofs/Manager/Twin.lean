import Herald.Proofs.Manager.Escalation
import Herald.Proofs.Remote.Likeness

/-!
# Managers that log alike

Two managers are `Twin`s when they have the same rules, loggers and metrics, and all of
their sinks, the remote one included, have the same records: the same apart from the
times at which they were made and apart from what those times do to their rendering.
Nothing is asked of the application's side, so twins may look for different
applications in different places, and locate callers differently.

A logging call makes and gives away the same records on both, and they stay twins
(`twin_logAt`). The relation is kept by every way a record can take: into memory, to the
console, into the queue of the remote sink, and on to where it is relayed.
-/

namespace Herald

/-- The same message, or two of records that are the same apart from their times. -/
inductive SameMessage (f : Format) : Message → Message → Prop where
  | refl (message : Message) : SameMessage f message message
  | dated {r r' : Record} (t t' : Float) (hr : r.undated = r'.undated) :
      SameMessage f (.ofRecord t r (f r)) (.ofRecord t' r' (f r'))

/-- The same event apart from times. An escalation is like no other event. -/
inductive SameEvent (f : Format) : Event → Event → Prop where
  | received (id : Nat) {r r' : Record} (hr : r.undated = r'.undated) :
      SameEvent f (.received id r) (.received id r')
  | shipping {s s' : Remote.Signal} (h : s.Like (SameMessage f) s') :
      SameEvent f (.shipping s) (.shipping s')
  | said (d : Diagnostic) : SameEvent f (.said d) (.said d)

namespace Manager

/-- Twins have the same in all of their sinks, apart from times. -/
structure Twin (f : Format) (m m' : Manager) : Prop where
  names : m.names = m'.names
  rootLevel : m.rootLevel = m'.rootLevel
  subtrees : m.subtrees = m'.subtrees
  loggers : m.loggers = m'.loggers
  rootSinks : m.rootSinks = m'.rootSinks
  memory : m.memory.map MemorySink.undated = m'.memory.map MemorySink.undated
  remote : Option.Rel (Remote.Sink.Like (SameMessage f)) m.remote m'.remote
  format : m.format = f
  format' : m'.format = f
  metrics : m.metrics = m'.metrics

/-- Outcomes that make twins and consist of the same events apart from times. -/
structure TwinOutcome (f : Format) (t t' : Traced) : Prop where
  twin : Twin f t.1 t'.1
  events : List.Forall₂ (SameEvent f) t.2 t'.2

/-- A manager without what concerns applications. -/
def unstaged (m : Manager) : Manager :=
  { m with
    accessor := .slot, slot := {}, testMode := .forced true, locator := .fixed Location.unknown
    captureStack := false, stack := [] }

section

variable {f : Format} {m m' : Manager} {t t' : Traced} {r r' : Record}

theorem Twin.logger (h : Twin f m m') : m.logger = m'.logger := by
  have hfresh : m.freshLogger = m'.freshLogger := by
    have hremote := h.remote
    unfold freshLogger
    generalize m.remote = there at hremote ⊢
    generalize m'.remote = there' at hremote ⊢
    cases hremote <;> rfl
  funext key
  rw [Manager.logger, Manager.logger, h.loggers, hfresh]

/-- Away from the remote sink twins are alike, once applications are left out. -/
theorem Twin.alike (h : Twin f m m') : Alike m.unstaged m'.unstaged := by
  have hside : ∀ m : Manager, m.unstaged.localSide =
      { m.localSide with
        accessor := .slot, current := none, testMode := .forced true
        locator := .fixed Location.unknown, captureStack := false, stack := [] } := fun _ => rfl
  rw [Alike, hside, hside]
  unfold localSide subtreeLevel?
  rw [h.names, h.rootLevel, h.subtrees, h.logger, h.rootSinks, h.memory, h.metrics]

theorem Twin.sinksOf (h : Twin f m m') (key : String) : m.sinksOf key = m'.sinksOf key := by
  rw [Manager.sinksOf, Manager.sinksOf, h.logger, h.rootSinks]

theorem Twin.accepts (h : Twin f m m') (hr : r.undated = r'.undated) (s : Sink) :
    m.accepts s r = m'.accepts s r' := h.alike.accepts hr s

theorem Twin.relay? (h : Twin f m m') (s : Sink) : m.relay? s = m'.relay? s := h.alike.relay? s

theorem Twin.record? (h : Twin f m m') (site : Site) (key : String) (l : Level)
    (message : String) :
    (m.record? site key l message).map Record.undated
      = (m'.record? site key l message).map Record.undated :=
  h.alike.record? site key l message

theorem TwinOutcome.quiet (h : Twin f m m') : TwinOutcome f (m, []) (m', []) := ⟨h, .nil⟩

theorem TwinOutcome.andThen {t₁ t₁' : Traced} (h : TwinOutcome f t t')
    (h' : TwinOutcome f t₁ t₁') : TwinOutcome f (t₁.1, t.2 ++ t₁.2) (t₁'.1, t'.2 ++ t₁'.2) :=
  ⟨h'.twin, List.rel_append h.events h'.events⟩

/-! ## One sink -/

/-- The counters do not tell messages apart. -/
theorem foldl_countSignal_like {R : Message → Message → Prop} {out out' : List Remote.Signal}
    (h : List.Forall₂ (Remote.Signal.Like R) out out') (metrics : Metrics) :
    out.foldl countSignal metrics = out'.foldl countSignal metrics := by
  induction h generalizing metrics with
  | nil => rfl
  | @cons s s' _ _ hs _ ih =>
      have hsame : countSignal metrics s = countSignal metrics s' := by
        cases hs <;> simp only [countSignal]
      rw [List.foldl_cons, List.foldl_cons, hsame, ih]

theorem twin_withRemote (h : Twin f m m') {s s' : Remote.Sink} {out out' : List Remote.Signal}
    (hs : s.Like (SameMessage f) s')
    (hout : List.Forall₂ (Remote.Signal.Like (SameMessage f)) out out') :
    Twin f (m.withRemote s out) (m'.withRemote s' out') :=
  { h with
    remote := .some hs
    metrics := by
      rw [withRemote, withRemote, h.metrics]
      exact foldl_countSignal_like hout _ }

theorem twin_store (h : Twin f m m') (hr : r.undated = r'.undated) (s : Sink) :
    TwinOutcome f (m.store s r) (m'.store s r') := by
  cases s with
  | console =>
      have hshown : Console.present r.undated = Console.present r'.undated :=
        congrArg Console.present hr
      have hshown : Console.present r = Console.present r' := hshown
      rw [store, store, hshown]
      exact ⟨h, .cons (.said _) .nil⟩
  | memory id =>
      have hmemory : ∀ (m : Manager) (r : Record),
          (m.updateMemory id fun s => { s with records := s.records ++ [r] }).memory.map
              MemorySink.undated
            = (m.memory.map MemorySink.undated).modify id fun s =>
                { s with records := s.records ++ [r.undated] } :=
        fun m r => congrArg LocalSide.memory (localSide_updateMemory m id r)
      refine ⟨{ h with memory := ?_ }, .cons (.received id hr) .nil⟩
      rw [store, store, hmemory, hmemory, hr, h.memory]
  | remote =>
      have hremote := h.remote
      change TwinOutcome f (m.ship r) (m'.ship r')
      unfold ship
      generalize hm : m.remote = there at hremote ⊢
      generalize hm' : m'.remote = there' at hremote ⊢
      cases hremote with
      | none => exact .quiet h
      | @some s s' hs =>
          -- both renderings are the format's, so the messages are those of the two records
          have hmessage : SameMessage f (Message.ofRecord m.clock.seconds r (m.format r))
              (Message.ofRecord m'.clock.seconds r' (m'.format r')) := by
            rw [h.format, h.format']
            exact .dated _ _ hr
          obtain ⟨hsink, hout⟩ := Remote.Sink.like_emit hs hmessage
          refine ⟨twin_withRemote h hsink hout, ?_⟩
          rw [List.forall₂_map_left_iff, List.forall₂_map_right_iff]
          exact hout.imp fun _ _ hsignal => .shipping hsignal

/-! ## Calls -/

theorem ofLoggings_twin : OfLoggings (Twin f) (fun r r' => r.undated = r'.undated) (TwinOutcome f)
    where
  idle := .quiet
  andThen h h' := h.andThen h'
  kept h := h.twin
  accepts h hr := h.accepts hr
  relay h := h.relay?
  message {r r'} hr := by
    have hmessage : r.undated.message = r'.undated.message := congrArg Record.message hr
    exact hmessage
  store := twin_store
  count {m m' r r'} h hr :=
    { h with
      metrics := by
        have hname : r.undated.levelName = r'.undated.levelName := congrArg Record.levelName hr
        have hname : r.levelName = r'.levelName := hname
        rw [countRecord, countRecord, h.metrics, hname] }

/-- Twins make the same record apart from times, or none. -/
theorem Twin.rel_record? (h : Twin f m m') (site : Site) (key : String) (l : Level)
    (message : String) :
    Option.Rel (fun r r' => r.undated = r'.undated) (m.record? site key l message)
      (m'.record? site key l message) := by
  have hmade := h.record? site key l message
  cases hr : m.record? site key l message with
  | none =>
      cases hr' : m'.record? site key l message with
      | none => exact .none
      | some r' => exact absurd hmade (by simp [hr, hr'])
  | some r =>
      cases hr' : m'.record? site key l message with
      | none => exact absurd hmade (by simp [hr, hr'])
      | some r' =>
          rw [hr, hr'] at hmade
          exact .some (Option.some.inj hmade)

theorem twin_logRelayed (h : Twin f m m') (site : Site) (key : String) (l : Level)
    (message : String) :
    TwinOutcome f (m.logRelayed site key l message) (m'.logRelayed site key l message) :=
  ofLoggings_twin.made (fun hr _ _ h s => twin_store h hr s) h (h.sinksOf key)
    (h.rel_record? site key l message)

/-- **A logging call does the same on twins.** -/
theorem twin_logAt (h : Twin f m m') (site : Site) (key : String) (l : Level) (message : String) :
    TwinOutcome f (m.logAt site key l message) (m'.logAt site key l message) :=
  ofLoggings_twin.made
    (fun hr _ _ h s => ofLoggings_twin.storeAndRelay site
      (fun h key l message => twin_logRelayed h site key l message) h hr s)
    h (h.sinksOf key) (h.rel_record? site key l message)

/-! ## Other changes -/

theorem Twin.updateLogger (h : Twin f m m') (key : String) (g : Logger → Logger) :
    Twin f (m.updateLogger key g) (m'.updateLogger key g) :=
  { h with loggers := by rw [Manager.updateLogger, Manager.updateLogger, h.loggers, h.logger] }

theorem Twin.getLogger (h : Twin f m m') (name : String) :
    Twin f (m.getLogger name).1 (m'.getLogger name).1 := h.updateLogger (loggerName name) id

theorem Twin.setLoggerLevel (h : Twin f m m') (key : String) (l : Level) :
    Twin f (m.setLoggerLevel key l) (m'.setLoggerLevel key l) := h.updateLogger key _

theorem Twin.addSink (h : Twin f m m') (key : String) (s : Sink) :
    Twin f (m.addSink key s) (m'.addSink key s) := h.updateLogger key _

/-- **A manager has a twin with any application's side at all**, at any time. -/
theorem twin_restaged (m : Manager) (accessor : Accessor) (slot : Slot) (testMode : TestMode)
    (locator : Locator) (captureStack : Bool) (stack : List Symbol) (clock : Clock) :
    Twin m.format m
      { m with accessor, slot, testMode, locator, captureStack, stack, clock } where
  names := rfl
  rootLevel := rfl
  subtrees := rfl
  loggers := rfl
  rootSinks := rfl
  memory := rfl
  remote := by
    cases m.remote with
    | none => exact .none
    | some s => exact .some (.refl .refl s)
  format := rfl
  format' := rfl
  metrics := rfl

end

end Manager

end Herald
