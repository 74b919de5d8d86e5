import Herald.Proofs.Manager.LocalSide

/-!
# The application's side of a manager

Of a manager an application has to do with its `stage`: where it is looked for, who is
installed and has taken what, and what its escalations are made of and counted as.
Logging is done backstage: it leaves the stage as it is, and no application takes
anything of it (`backstage_logAt`). So whatever a call does to the stage, it does by
escalating or by installing or clearing an application (`run_quiet`, `run_escalates`).
-/

namespace Herald

/-- What an application took of what happened. -/
def Event.taking? : Event → Option (String × Escalation)
  | .escalated label e => some (label, e)
  | _ => none

/-- What applications took of what happened, in order. -/
def takings (events : List Event) : List (String × Escalation) := events.filterMap Event.taking?

theorem takings_append (events more : List Event) :
    takings (events ++ more) = takings events ++ takings more := List.filterMap_append

/-- What an operation does to the slot by itself. -/
def Operation.onSlot : Operation → Slot → Slot
  | .install a, s => s.install a
  | .clear, s => s.clear
  | _, s => s

namespace Manager

/-- What escalations depend on and leave behind. -/
structure Stage where
  accessor : Accessor
  slot : Slot
  testMode : TestMode
  locator : Locator
  captureStack : Bool
  stack : List Symbol
  clock : Clock
  escalated : Tally
  missed : Tally

def stage (m : Manager) : Stage where
  accessor := m.accessor
  slot := m.slot
  testMode := m.testMode
  locator := m.locator
  captureStack := m.captureStack
  stack := m.stack
  clock := m.clock
  escalated := m.metrics.escalated
  missed := m.metrics.missed

/-- Nothing happened to the stage, and no application took anything. -/
structure Backstage (m : Manager) (t : Traced) : Prop where
  stage_eq : t.1.stage = m.stage
  untaken : takings t.2 = []

section

variable {m : Manager} {t : Traced}

theorem Backstage.slot (h : Backstage m t) : t.1.slot = m.slot := congrArg Stage.slot h.stage_eq

theorem Backstage.testMode (h : Backstage m t) : t.1.testMode = m.testMode :=
  congrArg Stage.testMode h.stage_eq

theorem Backstage.clock (h : Backstage m t) : t.1.clock = m.clock :=
  congrArg Stage.clock h.stage_eq

theorem Backstage.escalated (h : Backstage m t) :
    t.1.metrics.escalated = m.metrics.escalated := congrArg Stage.escalated h.stage_eq

theorem Backstage.missed (h : Backstage m t) : t.1.metrics.missed = m.metrics.missed :=
  congrArg Stage.missed h.stage_eq

theorem Backstage.warningOf (h : Backstage m t) (key text : String) :
    t.1.warningOf key text = m.warningOf key text := by
  have hlocator : t.1.locator = m.locator := congrArg Stage.locator h.stage_eq
  have hcapture : t.1.captureStack = m.captureStack := congrArg Stage.captureStack h.stage_eq
  have hstack : t.1.stack = m.stack := congrArg Stage.stack h.stage_eq
  rw [warningOf_eq, warningOf_eq, h.clock, hlocator, hcapture, hstack]

theorem Backstage.andThen {t' : Traced} (h : Backstage m t) (h' : Backstage t.1 t') :
    Backstage m (t'.1, t.2 ++ t'.2) where
  stage_eq := h'.stage_eq.trans h.stage_eq
  untaken := by rw [takings_append, h.untaken, h'.untaken, List.append_nil]

end

theorem stage_withRemote (m : Manager) (s : Remote.Sink) (signals : List Remote.Signal) :
    (m.withRemote s signals).stage = m.stage := by
  obtain ⟨-, hescalated, hmissed⟩ := local_foldl_countSignal signals m.metrics
  unfold stage
  rw [← hescalated, ← hmissed]
  rfl

theorem backstage_store (m : Manager) (s : Sink) (r : Record) : Backstage m (m.store s r) := by
  cases s with
  | console => exact ⟨rfl, rfl⟩
  | memory id => exact ⟨rfl, rfl⟩
  | remote =>
      change Backstage m (m.ship r)
      unfold ship
      cases m.remote with
      | none => exact ⟨rfl, rfl⟩
      | some s =>
          refine ⟨stage_withRemote m _ _, ?_⟩
          dsimp only
          rw [takings, List.filterMap_map]
          exact List.filterMap_eq_nil_iff.mpr fun _ _ => rfl

theorem ofLogging_backstage : OfLogging Backstage :=
  ⟨fun _ => ⟨rfl, rfl⟩, Backstage.andThen, backstage_store, fun _ _ => ⟨rfl, rfl⟩⟩

/-- **Logging is done backstage**, whatever sinks and relays there are. -/
theorem backstage_logAt (m : Manager) (site : Site) (key : String) (l : Level) (message : String) :
    Backstage m (m.logAt site key l message) := ofLogging_backstage.logAt m site key l message

/-- So is what the remote sink does. -/
theorem backstage_drift (m : Manager) (as : List Remote.Action) : Backstage m (m.drift as, []) :=
  ofLogging_backstage.drift m (fun _ _ => ⟨stage_withRemote _ _ _, rfl⟩) as

/-! ## The two escalating operations -/

section

variable {m : Manager} (site : Site) (key : String)

theorem notify_of_active (htest : m.testMode.isActive = true) (message : String) :
    m.notify site key message
      = ((m.logAt site key Level.notify message).1,
          (m.logAt site key Level.notify message).2, .done) := by
  have hlog := backstage_logAt m site key Level.notify message
  unfold notify
  dsimp only
  rw [hlog.testMode, if_pos htest]

theorem network_of_active (htest : m.testMode.isActive = true) (message : String)
    (warning : Option String) (as : List Remote.Action) :
    m.network site key message warning as
      = ((m.logAt site key Level.network message).1,
          (m.logAt site key Level.network message).2, .done) := by
  have hlog := backstage_logAt m site key Level.network message
  unfold network warning?
  dsimp only
  rw [hlog.testMode, if_pos htest]

/-- **An escalation comes last**, after what is logged. -/
theorem notify_of_inactive (htest : m.testMode.isActive = false) (message : String) :
    ∃ t : Traced, Backstage m t ∧ m.notify site key message
      = ((t.1.escalate (.notify (notificationText m.clock message))).1,
          t.2 ++ (t.1.escalate (.notify (notificationText m.clock message))).2.1,
          (t.1.escalate (.notify (notificationText m.clock message))).2.2) := by
  have hlog := backstage_logAt m site key Level.notify message
  unfold notify
  generalize m.logAt site key Level.notify message = t at hlog ⊢
  refine ⟨t, hlog, ?_⟩
  dsimp only
  rw [hlog.testMode, htest, hlog.clock, if_neg (by decide)]

theorem network_of_inactive (htest : m.testMode.isActive = false) (message text : String)
    (as : List Remote.Action) :
    ∃ t : Traced, Backstage m t ∧ m.network site key message (some text) as
      = ((t.1.escalate (.warning (m.warningOf key text))).1,
          t.2 ++ (t.1.escalate (.warning (m.warningOf key text))).2.1,
          (t.1.escalate (.warning (m.warningOf key text))).2.2) := by
  have hlog := backstage_logAt m site key Level.network message
  unfold network warning?
  generalize m.logAt site key Level.network message = t at hlog ⊢
  have hdrift := backstage_drift t.1 as
  have hagain := backstage_logAt (t.1.drift as) site key Level.warning (m.warningOf key text).text
  -- the warning is made between the two records, on a stage that is still the first
  refine ⟨_, hlog.andThen (hdrift.andThen hagain), ?_⟩
  dsimp only
  rw [hlog.testMode, if_neg (by rw [htest]; decide), Option.map_some, hlog.warningOf]
  dsimp only [raise]
  rw [List.append_assoc, List.nil_append]

end

/-! ## Operations and calls -/

/-- The escalation that an operation asks for, if it asks for one. -/
def escalation? (m : Manager) : Operation → Option Escalation
  | .notify _ message => some (.notify (notificationText m.clock message))
  | .network name _ (some text) => some (.warning (m.warningOf (loggerName name) text))
  | _ => none

/-- The escalation that a call asks for when it is made now. -/
def Call.escalation? (c : Call) (m : Manager) : Option Escalation :=
  match c.operation with
  | .notify _ message => some (.notify (notificationText m.clock message))
  | .network name _ (some text) =>
    some (.warning
      ⟨m.clock.seconds, loggerName name, m.locator.locate m.captureStack c.stack, text⟩)
  | _ => none

section

variable {m : Manager} {c : Call}

theorem escalation?_run (c : Call) (m : Manager) :
    { m with stack := c.stack }.escalation? c.operation = c.escalation? m := by
  unfold Call.escalation? Manager.escalation?
  split <;> simp only [warningOf_eq]

theorem backstage_getLogger (m : Manager) (name : String) :
    Backstage m ((m.getLogger name).1, []) := ⟨rfl, rfl⟩

theorem Backstage.afterGetLogger {name : String} {t : Traced}
    (h : Backstage (m.getLogger name).1 t) : Backstage m t :=
  (backstage_getLogger m name).andThen h

/-- **An operation that is not to escalate, or may not, only changes the slot of the stage.** -/
theorem perform_quiet (site : Site) {o : Operation}
    (h : m.escalation? o = none ∨ m.testMode.isActive = true) (as : List Remote.Action) :
    (m.perform site o as).1.stage = { m.stage with slot := o.onSlot m.slot }
      ∧ takings (m.perform site o as).2.1 = [] ∧ (m.perform site o as).2.2 = .done := by
  have hlogged : ∀ (name : String) (l : Level) (message : String),
      Backstage m ((m.getLogger name).1.logAt site (loggerName name) l message) :=
    fun name l message => (backstage_logAt _ site (loggerName name) l message).afterGetLogger
  have hactive : m.testMode.isActive = true → ∀ name,
      (m.getLogger name).1.testMode.isActive = true := fun htest _ => htest
  -- whatever logs does so backstage, and whatever does not log is not on the stage
  cases o with
  | log name l message =>
      have hlog := hlogged name l message
      rw [perform_log]
      exact ⟨hlog.stage_eq, hlog.untaken, rfl⟩
  | notify name message =>
      have hlog := hlogged name Level.notify message
      have htest := hactive (h.resolve_left (by simp [escalation?])) name
      rw [perform_notify, notify_of_active site (loggerName name) htest message]
      exact ⟨hlog.stage_eq, hlog.untaken, rfl⟩
  | network name message warning =>
      have hlog := hlogged name Level.network message
      rw [perform_network]
      cases warning with
      | none =>
          rw [network_none]
          exact ⟨hlog.stage_eq, hlog.untaken, rfl⟩
      | some text =>
          have htest := hactive (h.resolve_left (by simp [escalation?])) name
          rw [network_of_active site (loggerName name) htest message]
          exact ⟨hlog.stage_eq, hlog.untaken, rfl⟩
  | attach place s => cases place <;> exact ⟨rfl, rfl, rfl⟩
  | _ => exact ⟨rfl, rfl, rfl⟩

theorem run_quiet (h : c.escalation? m = none ∨ m.testMode.isActive = true)
    (as : List Remote.Action) :
    (c.run m as).1.stage = { m.stage with stack := c.stack, slot := c.operation.onSlot m.slot }
      ∧ takings (c.run m as).2.1 = [] ∧ (c.run m as).2.2 = .done := by
  rw [← escalation?_run] at h
  exact perform_quiet (m := { m with stack := c.stack }) c.site h as

/-- **A call that is to escalate does so at its end.** -/
theorem run_escalates (htest : m.testMode.isActive = false) {e : Escalation}
    (he : c.escalation? m = some e) (as : List Remote.Action) :
    ∃ t : Traced, Backstage { m with stack := c.stack } t
      ∧ c.run m as = ((t.1.escalate e).1, t.2 ++ (t.1.escalate e).2.1, (t.1.escalate e).2.2) := by
  obtain ⟨site, stack, operation⟩ := c
  rw [← escalation?_run] at he
  change ∃ t : Traced, Backstage { m with stack } t
    ∧ { m with stack }.perform site operation as = _
  have htest' : ∀ name, ({ m with stack }.getLogger name).1.testMode.isActive = false :=
    fun _ => htest
  cases operation with
  | notify name message =>
      obtain rfl := Option.some.inj he
      obtain ⟨t, ht, hrun⟩ := notify_of_inactive site (loggerName name) (htest' name) message
      rw [perform_notify]
      exact ⟨t, ht.afterGetLogger, hrun⟩
  | network name message warning =>
      cases warning with
      | none => exact absurd he (by simp [escalation?])
      | some text =>
          obtain rfl := Option.some.inj he
          obtain ⟨t, ht, hrun⟩ :=
            network_of_inactive site (loggerName name) (htest' name) message text as
          rw [(backstage_getLogger _ name).warningOf] at hrun
          rw [perform_network]
          exact ⟨t, ht.afterGetLogger, hrun⟩
  | _ => exact absurd he (by simp [escalation?])

/-! ## Between calls -/

variable {q q' : Manager} {a : Move}

/-- **Between calls only the time changes on the stage.** -/
theorem stage_between (hs : Step q a q') (ha : a.call? = none) :
    ∃ clock, q'.stage = { q.stage with clock } := by
  cases hs with
  | call c as => cases ha
  | tick now => exact ⟨now, rfl⟩
  | remote a hs hstep => exact ⟨q.clock, stage_withRemote q _ _⟩

theorem snoc_between (hist : History) (q : Manager) (ha : a.call? = none) :
    calls (hist ++ [(q, a)]) = calls hist ∧ events (hist ++ [(q, a)]) = events hist
      ∧ completions (hist ++ [(q, a)]) = completions hist := by
  rw [calls_snoc, events_snoc, completions_snoc, ha]
  cases a with
  | call c => cases ha
  | _ => exact ⟨List.append_nil _, List.append_nil _, List.append_nil _⟩

end

end Manager

end Herald
