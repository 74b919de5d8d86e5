import Herald.Proofs.Manager.Dispatch
import Herald.Proofs.Manager.Loggers
import Herald.Proofs.Manager.Naming

/-!
# Loggers keep apart

What is done to one logger `a` matters to no other one. Two managers that are the same
but for this logger stay so through the same moves (`SameBut.perform`), and a call that
is not about `a` brings every sink the same records in both, with the exception of the
records of `a` itself: a sink may log on through `a`, and then what comes of that is up
to `a` (`sameGiven_logAt`).

Between the calls and in the middle of them the remote sinks do what they will, in each
of two courses something else. So each course is compared with a replay of what is left
of its moves without that (`course_replay`).
-/

namespace Herald

/-- What reaches a sink. The remote sink is offered a message, which it may drop. -/
inductive Delivery where
  | kept (id : Nat) (r : Record)
  | shown (d : Diagnostic)
  | offered (message : Message)

/-- The logger whose record it is; the console shows its name. -/
def Delivery.logger? : Delivery → Option String
  | .kept _ r => some r.logger
  | .shown d =>
    match d.fields.lookup "logger" with
    | some (.quoted name) => some name
    | _ => none
  | .offered message => some message.loggerName

/-- The delivery that an event is. -/
def Event.delivery? : Event → Option Delivery
  | .received id r => some (.kept id r)
  | .shipping signal => signal.offered?.map .offered
  | .said d => if d.target = "tidings_core::sink::tracing_sink" then some (.shown d) else none
  | .escalated _ _ => none

/-- What reached sinks, in order. -/
def deliveries (events : List Event) : List Delivery := events.filterMap Event.delivery?

/-- What reached sinks of the records of other loggers. -/
def given (a : String) (events : List Event) : List Delivery :=
  (deliveries events).filter fun d => d.logger? ≠ some a

theorem deliveries_append (events more : List Event) :
    deliveries (events ++ more) = deliveries events ++ deliveries more := List.filterMap_append

theorem given_append (a : String) (events more : List Event) :
    given a (events ++ more) = given a events ++ given a more := by
  rw [given, deliveries_append, List.filter_append]
  rfl

namespace Manager

variable {a key message : String} {m m' n n' : Manager} {t t' : Traced} {r : Record} {l : Level}

/-! ## The same but for one logger -/

/-- Records pass by the same rules in both, as long as they are not of the logger `a`. -/
structure SameBut (a : String) (m m' : Manager) : Prop where
  names : m'.names = m.names
  rootLevel : m'.rootLevel = m.rootLevel
  subtrees : m'.subtrees = m.subtrees
  logger : ∀ key, key ≠ a → m'.logger key = m.logger key
  rootSinks : m'.rootSinks = m.rootSinks
  threshold : ∀ s, m'.threshold s = m.threshold s
  relay : ∀ s, m'.relay? s = m.relay? s
  clock : m'.clock = m.clock
  format : m'.format = m.format
  testMode : m'.testMode = m.testMode
  there : m'.remote.isSome = m.remote.isSome

theorem SameRules.sameBut (h : SameRules m m') (hthere : m'.remote.isSome = m.remote.isSome) :
    SameBut a m m' where
  names := h.names
  rootLevel := h.rootLevel
  subtrees := h.subtrees
  logger key _ := h.logger key
  rootSinks := h.rootSinks
  threshold := h.threshold
  relay := h.relay
  clock := h.clock
  format := h.format
  testMode := h.testMode
  there := hthere

theorem SameBut.refl (a : String) (m : Manager) : SameBut a m m := (SameRules.refl m).sameBut rfl

theorem SameBut.symm (h : SameBut a m m') : SameBut a m' m where
  names := h.names.symm
  rootLevel := h.rootLevel.symm
  subtrees := h.subtrees.symm
  logger key hkey := (h.logger key hkey).symm
  rootSinks := h.rootSinks.symm
  threshold s := (h.threshold s).symm
  relay s := (h.relay s).symm
  clock := h.clock.symm
  format := h.format.symm
  testMode := h.testMode.symm
  there := h.there.symm

theorem SameBut.trans (h : SameBut a m m') (h' : SameBut a m' n) : SameBut a m n where
  names := h'.names.trans h.names
  rootLevel := h'.rootLevel.trans h.rootLevel
  subtrees := h'.subtrees.trans h.subtrees
  logger key hkey := (h'.logger key hkey).trans (h.logger key hkey)
  rootSinks := h'.rootSinks.trans h.rootSinks
  threshold s := (h'.threshold s).trans (h.threshold s)
  relay s := (h'.relay s).trans (h.relay s)
  clock := h'.clock.trans h.clock
  format := h'.format.trans h.format
  testMode := h'.testMode.trans h.testMode
  there := h'.there.trans h.there

/-- A change of this logger. -/
theorem sameBut_updateLogger (m : Manager) (a : String) {f : Logger → Logger}
    (hf : ∀ l, (f l).name = l.name) : SameBut a m (m.updateLogger a f) where
  names := rfl
  rootLevel := rfl
  subtrees := rfl
  logger key hkey := by rw [logger_updateLogger _ _ _ hf, if_neg hkey.symm]
  rootSinks := rfl
  threshold s := by cases s <;> rfl
  relay s := by cases s <;> rfl
  clock := rfl
  format := rfl
  testMode := rfl
  there := rfl

theorem SameBut.effectiveLevel (h : SameBut a m m') (hkey : key ≠ a) :
    m'.effectiveLevel key = m.effectiveLevel key := by
  refine effectiveLevel_congr (by rw [h.logger key hkey]) (fun p _ => ?_) h.rootLevel
  rw [subtreeLevel?, subtreeLevel?, h.subtrees]

theorem SameBut.record? (h : SameBut a m m') (hkey : key ≠ a) (site : Site) (l : Level)
    (message : String) : m'.record? site key l message = m.record? site key l message := by
  rw [record?_eq, record?_eq, isEnabledFor, isEnabledFor, h.effectiveLevel hkey, h.names,
    h.clock]

theorem SameBut.sinksOf (h : SameBut a m m') (hkey : key ≠ a) : m'.sinksOf key = m.sinksOf key := by
  rw [Manager.sinksOf, Manager.sinksOf, h.logger key hkey, h.rootSinks]

theorem SameBut.accepts (h : SameBut a m m') (s : Sink) (r : Record) :
    m'.accepts s r = m.accepts s r := by
  rw [Manager.accepts, Manager.accepts, h.threshold]

/-- Neither the rules nor the loggers have changed. -/
structure Untouched (m : Manager) (t : Traced) : Prop where
  rules : SameRules m t.1
  loggers : SameLoggers m t.1

theorem SameBut.after (h : SameBut a m m') (ht : Untouched m t) (ht' : Untouched m' t') :
    SameBut a t.1 t'.1 :=
  ((ht.rules.sameBut ht.loggers.there).symm.trans h).trans (ht'.rules.sameBut ht'.loggers.there)

theorem ofLogging_untouched : OfLogging Untouched where
  idle m := ⟨.refl m, .refl m⟩
  andThen h h' := ⟨h.rules.trans h'.rules, ofLogging_sameLoggers.andThen h.loggers h'.loggers⟩
  store m s r := ⟨sameRules_store m s r, sameLoggers_store m s r⟩
  count m r := ⟨sameRules_countRecord m r, ⟨rfl, rfl⟩⟩

theorem untouched_withRemote {s s' : Remote.Sink} {out : List Remote.Signal} {b : Remote.Action}
    (hs : m.remote = some s) (_ : s.step b = some (s', out)) : Untouched m (m.withRemote s' out, []) :=
  ⟨sameRules_withRemote hs s' out, sameLoggers_withRemote hs s' out⟩

theorem untouched_escalate (m : Manager) (e : Escalation) :
    Untouched m ((m.escalate e).1, (m.escalate e).2.1) := ⟨sameRules_escalate m e, ⟨rfl, rfl⟩⟩

/-! ## What a call gives to the sinks -/

/-- Both stay the same but for the logger, and sinks are given the same of all other loggers. -/
structure SameGiven (a : String) (t t' : Traced) : Prop where
  same : SameBut a t.1 t'.1
  given : given a t'.2 = given a t.2

theorem SameGiven.quiet (h : SameBut a m m') : SameGiven a (m, []) (m', []) := ⟨h, rfl⟩

theorem SameGiven.andThen {t₁ t₁' : Traced} (h : SameGiven a t t') (h' : SameGiven a t₁ t₁') :
    SameGiven a (t₁.1, t.2 ++ t₁.2) (t₁'.1, t'.2 ++ t₁'.2) :=
  ⟨h'.same, by rw [given_append, given_append, h.given, h'.given]⟩

/-- What a sink is given of a record. -/
def delivery? (m : Manager) (r : Record) : Sink → Option Delivery
  | .memory id => some (.kept id r)
  | .console => some (.shown (Console.present r))
  | .remote => if m.remote.isSome then some (.offered (m.messageOf r)) else none

theorem SameBut.delivery? (h : SameBut a m m') (r : Record) : m'.delivery? r = m.delivery? r := by
  funext s
  cases s with
  | remote =>
      rw [Manager.delivery?, Manager.delivery?, h.there, messageOf, messageOf, h.clock, h.format]
  | _ => rfl

theorem deliveries_map_shipping (signals : List Remote.Signal) :
    deliveries (signals.map Event.shipping) = (Remote.offered signals).map .offered := by
  rw [deliveries, List.filterMap_map, Remote.offered, List.map_filterMap]
  rfl

theorem deliveries_store (m : Manager) (s : Sink) (r : Record) :
    deliveries (m.store s r).2 = (m.delivery? r s).toList := by
  cases s with
  | memory id => rfl
  | console => rfl
  | remote =>
      change deliveries (m.ship r).2 = _
      unfold ship
      cases hremote : m.remote with
      | none =>
          rw [delivery?, hremote]
          rfl
      | some s =>
          rw [delivery?, hremote]
          dsimp only
          rw [deliveries_map_shipping, offered_emit]
          rfl

theorem logger?_delivery? {s : Sink} {d : Delivery} (h : m.delivery? r s = some d) :
    d.logger? = some r.logger := by
  cases s with
  | memory id =>
      obtain rfl := Option.some.inj h
      rfl
  | console =>
      obtain rfl := Option.some.inj h
      rfl
  | remote =>
      rw [delivery?] at h
      split at h
      case isFalse _ => cases h
      case isTrue _ =>
        obtain rfl := Option.some.inj h
        rfl

/-- A record of the logger itself is given to nobody else. -/
theorem given_store (hr : r.logger = a) (m : Manager) (s : Sink) : given a (m.store s r).2 = [] := by
  rw [given, deliveries_store, List.filter_eq_nil_iff]
  intro d hd
  rw [logger?_delivery? (Option.mem_toList.mp hd), hr]
  simp

theorem sameGiven_store (h : SameBut a m m') (s : Sink) (r : Record) :
    SameGiven a (m.store s r) (m'.store s r) := by
  refine ⟨h.after (ofLogging_untouched.store m s r) (ofLogging_untouched.store m' s r), ?_⟩
  rw [given, given, deliveries_store, deliveries_store, h.delivery?]

theorem ofLoggings_sameGiven : OfLoggings (SameBut a) Eq (SameGiven a) where
  idle := .quiet
  andThen h h' := h.andThen h'
  kept h := h.same
  accepts h hr s := hr ▸ (h.accepts s _).symm
  relay h s := (h.relay s).symm
  message hr := congrArg Record.message hr
  store h hr s := hr ▸ sameGiven_store h s _
  count h _ := h.after (ofLogging_untouched.count _ _) (ofLogging_untouched.count _ _)

/-- Another logger makes the same record in both, or none. -/
theorem SameBut.rel_record? (h : SameBut a m m') (hkey : key ≠ a) (site : Site) (l : Level)
    (message : String) :
    Option.Rel Eq (m.record? site key l message) (m'.record? site key l message) := by
  rw [h.record? hkey]
  cases m.record? site key l message with
  | none => exact .none
  | some r => exact .some rfl

/-! ### Calls -/

theorem given_logRelayed (m : Manager) (site : Site) (a : String) (l : Level) (message : String) :
    given a (m.logRelayed site a l message).2 = [] := by
  have hoffer : ∀ {r : Record}, r.logger = a → ∀ (sinks : List Sink) (m : Manager),
      given a (offerAll (fun m s => m.store s r) r sinks m).2 = [] := by
    intro r hr sinks
    induction sinks with
    | nil => exact fun m => rfl
    | cons s rest ih =>
        intro m
        rw [offerAll, given_append, ih, List.append_nil]
        split
        case isTrue _ => exact given_store hr m s
        case isFalse _ => rfl
  rw [logRelayed, record?_eq]
  split
  case h_1 r hr =>
    split at hr
    case isTrue _ =>
      refine hoffer ?_ _ _
      rw [← Option.some.inj hr]
      rfl
    case isFalse _ => cases hr
  case h_2 => rfl

/-- What is relayed through `a` is not given to others, and what is relayed elsewhere is the same. -/
theorem sameGiven_logRelayed (h : SameBut a m m') (site : Site) (key : String) (l : Level)
    (message : String) :
    SameGiven a (m.logRelayed site key l message) (m'.logRelayed site key l message) := by
  by_cases hkey : key = a
  · subst hkey
    refine ⟨h.after (ofLogging_untouched.logRelayed m site key l message)
      (ofLogging_untouched.logRelayed m' site key l message), ?_⟩
    rw [given_logRelayed, given_logRelayed]
  · exact ofLoggings_sameGiven.made (fun hr _ _ h s => ofLoggings_sameGiven.store h hr s) h
      (h.sinksOf hkey).symm (h.rel_record? hkey site l message)

/-- **Whatever happened to `a`, a call through another logger gives sinks the same.** -/
theorem sameGiven_logAt (h : SameBut a m m') (hkey : key ≠ a) (site : Site) (l : Level)
    (message : String) :
    SameGiven a (m.logAt site key l message) (m'.logAt site key l message) :=
  ofLoggings_sameGiven.made
    (fun hr _ _ h s => ofLoggings_sameGiven.storeAndRelay site
      (fun h key l message => sameGiven_logRelayed h site key l message) h hr s)
    h (h.sinksOf hkey).symm (h.rel_record? hkey site l message)

/-- Whatever an application does with an escalation, no sink is given anything. -/
theorem given_escalate (m : Manager) (e : Escalation) : given a (m.escalate e).2.1 = [] := by
  unfold escalate Escalation.deliver
  cases m.accessor.find m.slot with
  | none =>
      have hnone : (Event.said e.missedDiagnostic).delivery? = none := by
        rw [Event.delivery?, e.target_missedDiagnostic, if_neg (by decide)]
      rw [given, deliveries, List.filterMap_cons_none hnone]
      rfl
  | some application => cases application <;> rfl

theorem sameGiven_escalate (h : SameBut a m m') (e e' : Escalation) :
    SameGiven a ((m.escalate e).1, (m.escalate e).2.1) ((m'.escalate e').1, (m'.escalate e').2.1) :=
  ⟨h.after (untouched_escalate m e) (untouched_escalate m' e'),
    (given_escalate m' e').trans (given_escalate m e).symm⟩

theorem sameGiven_notify (h : SameBut a m m') (hkey : key ≠ a) (site : Site) (message : String) :
    SameGiven a ((m.notify site key message).1, (m.notify site key message).2.1)
      ((m'.notify site key message).1, (m'.notify site key message).2.1) := by
  have hlog := sameGiven_logAt h hkey site Level.notify message
  unfold notify
  dsimp only
  rw [hlog.same.testMode]
  split
  · exact hlog
  · exact hlog.andThen (sameGiven_escalate hlog.same _ _)

theorem sameGiven_raise (h : SameBut a m m') (hkey : key ≠ a) (site : Site) {w w' : Warning}
    (hw : w'.text = w.text) :
    SameGiven a ((m.raise site key w).1, (m.raise site key w).2.1)
      ((m'.raise site key w').1, (m'.raise site key w').2.1) := by
  have hlog := sameGiven_logAt h hkey site Level.warning w.text
  rw [raise, raise, hw]
  exact hlog.andThen (sameGiven_escalate hlog.same _ _)

theorem sameGiven_network (h : SameBut a m m') (hkey : key ≠ a) (site : Site) (message : String)
    (warning : Option String) (as as' : List Remote.Action) :
    SameGiven a
      ((m.network site key message warning as).1, (m.network site key message warning as).2.1)
      ((m'.network site key message warning as').1,
        (m'.network site key message warning as').2.1) := by
  have hlog := sameGiven_logAt h hkey site Level.network message
  unfold network warning?
  generalize m.logAt site key Level.network message = t at hlog ⊢
  generalize m'.logAt site key Level.network message = t' at hlog ⊢
  obtain ⟨m₁, logged⟩ := t
  obtain ⟨m₁', logged'⟩ := t'
  have htest : m₁'.testMode = m₁.testMode := hlog.same.testMode
  dsimp only
  rw [htest]
  cases warning with
  | none =>
      rw [Option.map_none, Option.map_none, ite_self]
      exact hlog
  | some text =>
      -- the remote sinks do different things meanwhile, and this gives no sink anything
      have hdrift : SameBut a (m₁.drift as) (m₁'.drift as') := hlog.same.after
        (ofLogging_untouched.drift m₁ untouched_withRemote as)
        (ofLogging_untouched.drift m₁' untouched_withRemote as')
      have htext : (m₁'.warningOf key text).text = (m₁.warningOf key text).text := rfl
      have hraise := sameGiven_raise hdrift hkey site htext
      by_cases hactive : m₁.testMode.isActive = true
      · rw [if_pos hactive, if_pos hactive]
        exact hlog
      · rw [if_neg hactive, if_neg hactive]
        exact hlog.andThen hraise

/-! ## Operations and calls -/

theorem SameBut.getLogger (h : SameBut a m m') (name : String) :
    SameBut a (m.getLogger name).1 (m'.getLogger name).1 :=
  (((sameRules_getLogger m name).sameBut rfl).symm.trans h).trans
    ((sameRules_getLogger m' name).sameBut rfl)

/-- **An operation leaves managers the same but for this logger**, even one that is about it. -/
theorem SameBut.perform (h : SameBut a m m') (site : Site) (o : Operation)
    (as as' : List Remote.Action) : SameBut a (m.perform site o as).1 (m'.perform site o as').1 := by
  have hlogger : ∀ key, key ≠ a →
      (m'.perform site o as').1.logger key = (m.perform site o as).1.logger key := by
    intro key hkey
    rw [logger_perform, logger_perform, h.logger key hkey]
  cases o with
  | getLogger name => exact h.getLogger name
  | log name l message =>
      have hlog := (h.getLogger name).after
        (ofLogging_untouched.logAt _ site (loggerName name) l message)
        (ofLogging_untouched.logAt _ site (loggerName name) l message)
      rw [perform_log, perform_log]
      exact hlog
  | notify name message =>
      have hnotify := (h.getLogger name).after
        (ofLogging_untouched.notify _ site (loggerName name) untouched_escalate message)
        (ofLogging_untouched.notify _ site (loggerName name) untouched_escalate message)
      rw [perform_notify, perform_notify]
      exact hnotify
  | network name message warning =>
      have hnetwork := (h.getLogger name).after
        (ofLogging_untouched.network _ site (loggerName name) untouched_escalate untouched_withRemote
          message warning as)
        (ofLogging_untouched.network _ site (loggerName name) untouched_escalate untouched_withRemote
          message warning as')
      rw [perform_network, perform_network]
      exact hnetwork
  | setLoggerLevel name l => exact { h with logger := hlogger }
  | setLevel name l => exact { h with subtrees := congrArg (Table.set · name l) h.subtrees }
  | clearLevel name => exact { h with subtrees := congrArg (Table.erase · name) h.subtrees }
  | setRootLevel l => exact { h with rootLevel := rfl }
  | attach place s =>
      cases place with
      | none => exact { h with rootSinks := congrArg (· ++ [s]) h.rootSinks }
      | some name => exact { h with logger := hlogger }
  | install application => exact { h with }
  | clear => exact { h with }

/-- **An operation that is not about this logger gives sinks the same of all others.** -/
theorem sameGiven_perform (h : SameBut a m m') (site : Site) {o : Operation}
    (ho : o.logger? ≠ some a) (as as' : List Remote.Action) :
    SameGiven a ((m.perform site o as).1, (m.perform site o as).2.1)
      ((m'.perform site o as').1, (m'.perform site o as').2.1) := by
  have hkey : ∀ {name}, o.logger? = some (loggerName name) → loggerName name ≠ a := by
    rintro name hname rfl
    exact ho hname
  refine ⟨h.perform site o as as', ?_⟩
  cases o with
  | log name l message =>
      have hlog := sameGiven_logAt (h.getLogger name) (hkey rfl) site l message
      rw [perform_log, perform_log]
      exact hlog.given
  | notify name message =>
      have hnotify := sameGiven_notify (h.getLogger name) (hkey rfl) site message
      rw [perform_notify, perform_notify]
      exact hnotify.given
  | network name message warning =>
      have hnetwork := sameGiven_network (h.getLogger name) (hkey rfl) site message warning as as'
      rw [perform_network, perform_network]
      exact hnetwork.given
  | attach place s => cases place <;> rfl
  | _ => rfl

/-! ## Whole courses -/

/-- What sinks are given of other loggers in a move, unless it is a call about `a`. -/
def givenIn (a : String) : Manager × Move → List Delivery
  | (m, .call c as) => if c.operation.logger? = some a then [] else given a (c.run m as).2.1
  | _ => []

/-- What sinks are given of other loggers in the calls that are not about `a`, in order. -/
def givenAll (a : String) (hist : History) : List Delivery := hist.flatMap (givenIn a)

theorem givenAll_snoc (a : String) (hist : History) (e : Manager × Move) :
    givenAll a (hist ++ [e]) = givenAll a hist ++ givenIn a e := by
  simp [givenAll]

/-- A move without what the remote sink does, if anything is left. -/
def Move.local? : Move → Option Move
  | .call c _ => some (.call c)
  | .tick now => some (.tick now)
  | .remote _ => none

/-- The moves that are not the remote sink's. -/
def localMoves (hist : History) : List Move := hist.filterMap fun e => e.2.local?

/-- Makes a move, if it is not for the remote sink to make it. -/
def Move.make (m : Manager) : Move → Manager
  | .call c as => (c.run m as).1
  | .tick now => { m with clock := now }
  | .remote _ => m

/-- Makes moves with nothing in between. -/
def replay (m : Manager) : List Move → History
  | [] => []
  | x :: rest => (m, x) :: replay (x.make m) rest

theorem replay_append (m : Manager) (moves more : List Move) :
    m.replay (moves ++ more) = m.replay moves ++ (moves.foldl Move.make m).replay more := by
  induction moves generalizing m with
  | nil => rfl
  | cons y moves ih =>
      rw [List.cons_append, replay, ih]
      rfl

theorem localMoves_snoc (hist : History) (m : Manager) (x : Move) :
    localMoves (hist ++ [(m, x)]) = localMoves hist ++ x.local?.toList := by
  rw [localMoves, List.filterMap_append]
  cases x <;> rfl

/-- The same call made on both sides, whatever the remote sinks do meanwhile. -/
theorem sameBut_run (h : SameBut a m m') (c : Call) (as as' : List Remote.Action) :
    SameBut a (c.run m as).1 (c.run m' as').1
      ∧ givenIn a (m', .call c as') = givenIn a (m, .call c as) := by
  have hstack : SameBut a { m with stack := c.stack } { m' with stack := c.stack } := { h with }
  refine ⟨hstack.perform c.site c.operation as as', ?_⟩
  rw [givenIn, givenIn]
  split
  case isTrue _ => rfl
  case isFalse ho => exact (sameGiven_perform hstack c.site ho as as').given

/-- A move is replayed, or nothing of it is, and then it makes no difference. -/
theorem sameBut_step {q q' : Manager} {x : Move} (h : SameBut a m q) (hs : Step q x q') :
    SameBut a ((x.local?.toList).foldl Move.make m) q'
      ∧ givenIn a (q, x) = givenAll a (m.replay x.local?.toList) := by
  cases hs with
  | call c as =>
      obtain ⟨hsame, hgiven⟩ := sameBut_run h c [] as
      exact ⟨hsame, hgiven.trans (List.append_nil _).symm⟩
  | tick now => exact ⟨{ h with clock := rfl }, rfl⟩
  | remote b hs hstep =>
      have hmoved := untouched_withRemote hs hstep
      exact ⟨h.trans (hmoved.rules.sameBut hmoved.loggers.there), rfl⟩

/-- **A course comes to the same as its local moves alone**, on managers that differ in `a`. -/
theorem course_replay {hist : History} {q : Manager} (h : Course m hist q) (hm : SameBut a m' m) :
    SameBut a ((localMoves hist).foldl Move.make m') q
      ∧ givenAll a hist = givenAll a (m'.replay (localMoves hist)) := by
  induction h with
  | start => exact ⟨hm, rfl⟩
  | @next hist q q' x _ hs ih =>
      obtain ⟨hsame, hgiven⟩ := ih
      -- the replay goes on with what is left of the move
      obtain ⟨hstep, hstepGiven⟩ := sameBut_step hsame hs
      rw [localMoves_snoc, givenAll_snoc, hgiven, hstepGiven, replay_append, List.foldl_append]
      exact ⟨hstep, List.flatMap_append.symm⟩

/-- Courses with the same local moves keep managers the same but for this logger. -/
theorem sameBut_of_localMoves_eq {hist hist' : History} {q q' : Manager} (hm : SameBut a m m')
    (h : Course m hist q) (h' : Course m' hist' q') (hmoves : localMoves hist = localMoves hist') :
    SameBut a q q' ∧ givenAll a hist' = givenAll a hist := by
  obtain ⟨hleft, hgiven⟩ := course_replay h (.refl a m)
  obtain ⟨hright, hgiven'⟩ := course_replay h' hm
  rw [← hmoves] at hright hgiven'
  exact ⟨hleft.symm.trans hright, hgiven'.trans hgiven.symm⟩

/--
**A logger is what its name says and what was done to it.**

A manager is built, and from then on anything happens. Two texts, whenever they ask for
a logger, get the same one exactly if they denote the same name. There are as many
loggers as different ones have been asked for. A logger has the level that it was given
last and, behind the remote sink, the sinks that were attached to it; the remote sink is
there from the start and once, if records are shipped. And whatever level one logger is
given and whatever is attached to it, under the same calls at the same times all other
loggers have and keep the same levels and sinks, and calls that are not about that one
give all sinks the same records of the others.
-/
theorem loggers_keep_apart {names : Registry} {plan : Plan} {events : List Event} {hist : History}
    {q : Manager} (hbuild : build names plan = .ok (m, events)) (h : Course m hist q) :
    (∀ text other hist' q', Course q hist' q' →
        ((q.getLogger text).2 = (q'.getLogger other).2
          ↔ ∃ key, Denotes text key ∧ Denotes other key))
      ∧ q.loggerCount = (asked (operations hist)).dedup.length
      ∧ (∀ key, q.logger key
          = { name := key
              level := (latest (Operation.ownLevel? key) (operations hist)).getD Level.notset
              sinks := (if plan.config.remote.enabled then [.remote] else [])
                ++ (operations hist).filterMap (Operation.attached? key)
              remoteAttached := plan.config.remote.enabled })
      ∧ (∀ text key, (q.getLogger text).2 = key → key ∉ asked (operations hist) →
          (q.getLogger text).1.logger key
            = { name := key
                sinks := if plan.config.remote.enabled then [.remote] else []
                remoteAttached := plan.config.remote.enabled })
      ∧ ∀ a changed, ((∃ l, changed = q.setLoggerLevel a l) ∨ ∃ s, changed = q.addSink a s) →
          ∀ hist₁ hist₂ q₁ q₂, Course q hist₁ q₁ → Course changed hist₂ q₂ →
            localMoves hist₁ = localMoves hist₂ →
            (∀ key, key ≠ a → q₂.logger key = q₁.logger key)
              ∧ givenAll a hist₂ = givenAll a hist₁ := by
  have hkeeps := keeps_course h
  have hstart := logger_of_build hbuild
  have hlogger : ∀ key, q.logger key
      = { name := key
          level := (latest (Operation.ownLevel? key) (operations hist)).getD Level.notset
          sinks := (if plan.config.remote.enabled then [.remote] else [])
            ++ (operations hist).filterMap (Operation.attached? key)
          remoteAttached := plan.config.remote.enabled } := by
    intro key
    have hlevel := (holds_course h).level key
    have hsinks := hkeeps.sinks key
    have hremote := hkeeps.remoteAttached key
    have hname := q.name_logger key
    rw [hstart] at hlevel hsinks hremote
    dsimp only at hlevel hsinks hremote
    generalize q.logger key = lg at hname hlevel hsinks hremote ⊢
    rw [← hlevel, ← hsinks, ← hremote, ← hname]
  refine ⟨fun text other _ q' _ => ?_, ?_, hlogger, ?_, ?_⟩
  · rw [snd_getLogger, snd_getLogger]
    exact loggerName_eq_loggerName_iff
  · have hnames := hkeeps.names
    rw [loggerNames, loggerNames, (loggers_of_build hbuild).1, List.map_nil] at hnames
    rw [loggerCount, ← List.length_map Prod.fst, hnames, length_foldl_named]
  · intro text key _ hnew
    obtain ⟨hlevel, hsinks⟩ := silent_of_not_mem_asked hnew
    rw [(sameRules_getLogger q text).logger, hlogger, hlevel, hsinks, List.append_nil]
    rfl
  · rintro a changed hchanged hist₁ hist₂ q₁ q₂ h₁ h₂ hmoves
    have hsame : SameBut a q changed := by
      obtain ⟨l, rfl⟩ | ⟨s, rfl⟩ := hchanged
      · exact sameBut_updateLogger q a fun _ => rfl
      · exact sameBut_updateLogger q a fun _ => rfl
    obtain ⟨hafter, hgiven⟩ := sameBut_of_localMoves_eq hsame h₁ h₂ hmoves
    exact ⟨hafter.logger, hgiven⟩

/-- A manager that ships, as it is built. -/
def shippingStart : Manager :=
  assemble .defaults shippingPlan Level.info (some (.ofCapacity "records" 1))

/-- A logger is given a level and a sink under two spellings, and two others are used. -/
def sharedCalls : List Call :=
  [.getLogger "", .setLoggerLevel " app\t" Level.error, .attach (some "app") (.memory 0),
    .log "db" Level.info "up"].map fun o => { site := ⟨"app", 1⟩, operation := o }

/-- One record of each of two loggers. -/
def twoRecords : List Call :=
  [.log "db" Level.info "down", .log "app" Level.error "lost"].map fun o =>
    { site := ⟨"app", 1⟩, operation := o }

/-- Four times a sink is given the record of `app`, also where `db` is kept from saying anything. -/
theorem loggers_keep_apart_sharedRun :
    ∃ m events hist q hist₂ q₂, build .defaults shippingPlan = .ok (m, events) ∧ Course m hist q
      ∧ calls hist = sharedCalls
      ∧ Course (q.setLoggerLevel "db" Level.critical) hist₂ q₂ ∧ calls hist₂ = twoRecords
      ∧ (q.getLogger "\n app").2 = (q.getLogger "app").2
      ∧ q.loggerCount = 3
      ∧ q.logger "app"
        = { name := "app", level := Level.error, sinks := [.remote, .memory 0], remoteAttached := true }
      ∧ (q.getLogger "web").1.logger "web"
        = { name := "web", sinks := [.remote], remoteAttached := true }
      ∧ (q₂.logger "app").level = Level.error
      ∧ (givenAll "db" hist₂).length = 4 := by
  have hbuild : build .defaults shippingPlan = .ok (shippingStart, _) := rfl
  have h := course_of_calls shippingStart sharedCalls
  have h₁ := course_of_calls (shippingStart.after sharedCalls) twoRecords
  have h₂ := course_of_calls
    ((shippingStart.after sharedCalls).setLoggerLevel "db" Level.critical) twoRecords
  obtain ⟨hsame, hcount, hlogger, hnew, hapart⟩ := loggers_keep_apart hbuild h
  obtain ⟨hkept, hgiven⟩ := hapart "db" _ (.inl ⟨Level.critical, rfl⟩) _ _ _ _ h₁ h₂ rfl
  have hdenotes : Denotes "\n app" "app" := loggerName_eq_iff.mp (by decide +kernel)
  have happ : Denotes "app" "app" := loggerName_eq_iff.mp (by decide +kernel)
  refine ⟨_, _, _, _, _, _, hbuild, h, rfl, h₂, rfl, ?_, ?_, ?_, ?_, ?_, ?_⟩
  · exact (hsame _ _ _ _ .start).mpr ⟨"app", hdenotes, happ⟩
  · rw [hcount]
    decide +kernel
  · rw [hlogger]
    rfl
  · rw [hnew "web" "web" (by decide +kernel) (by decide +kernel)]
    rfl
  · rw [hkept "app" (by decide)]
    decide +kernel
  · rw [hgiven]
    decide +kernel

end Manager

end Herald
