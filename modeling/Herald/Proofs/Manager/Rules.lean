import Herald.Proofs.Manager.Perform

/-!
# Rules that change and rules that do not

By which rules records pass is up to the operations that say so: they change one
threshold or one list of sinks, and nothing else. A logging call is none of them:
however many sinks it reaches, relays it sets off and escalations it makes,
afterwards records pass as they did before.

A logging call consists of few things, so what holds of each of them and carries over
from one to the next holds of the whole call (`OfLogging`). The same goes for two calls
that are made side by side on managers that have something to do with each other
(`OfLoggings`).

The manager need not have attached the remote sink itself for this; a sink may be
attached anywhere and any number of times.
-/

namespace Herald.Manager

variable (m : Manager) (site : Site) (key : String)

/-! ## Changing a threshold -/

theorem subtreeLevel?_setLevel (name : String) (l : Level) (p : String) :
    (m.setLevel name l).subtreeLevel? p
      = if name = p then (if l = Level.notset then none else some l) else m.subtreeLevel? p := by
  rw [subtreeLevel?, setLevel, Table.get?_set]
  split
  case isTrue _ => by_cases hl : l = Level.notset <;> simp [hl]
  case isFalse _ => rfl

theorem subtreeLevel?_clearLevel (name p : String) :
    (m.clearLevel name).subtreeLevel? p = if name = p then none else m.subtreeLevel? p := by
  rw [subtreeLevel?, clearLevel, Table.get?_erase]
  split
  case isTrue _ => rfl
  case isFalse _ => rfl

theorem logger_setLoggerLevel (l : Level) (key' : String) :
    (m.setLoggerLevel key l).logger key'
      = { m.logger key' with level := if key = key' then l else (m.logger key').level } := by
  have hlogger := m.logger_updateLogger key key' (f := fun lg => { lg with level := l }) fun _ => rfl
  rw [setLoggerLevel, hlogger]
  split
  case isTrue hkey => rw [hkey]
  case isFalse _ => rfl

theorem logger_addSink (s : Sink) (key' : String) :
    (m.addSink key s).logger key'
      = { m.logger key' with
          sinks := (m.logger key').sinks ++ if key = key' then [s] else [] } := by
  have hlogger := m.logger_updateLogger key key' (f := fun lg => { lg with sinks := lg.sinks ++ [s] })
    fun _ => rfl
  rw [addSink, hlogger]
  split
  case isTrue hkey => rw [hkey]
  case isFalse _ => rw [List.append_nil]

/-! ## What the remote sink does meanwhile -/

/-- What no step of the remote sink ends, it does not end by several. -/
theorem drift_preserves {P : Manager → Prop} {m : Manager} (h : P m)
    (hremote : ∀ {q : Manager} {s s' out} {a : Remote.Action}, P q → q.remote = some s →
      s.step a = some (s', out) → P (q.withRemote s' out))
    (as : List Remote.Action) : P (m.drift as) := by
  induction as generalizing m with
  | nil => exact h
  | cons a rest ih =>
      rw [drift]
      split
      case h_1 s' out hstep =>
        obtain ⟨s, hs, hstep⟩ := Option.bind_eq_some_iff.mp hstep
        exact ih (hremote h hs hstep)
      case h_2 => exact ih h

/-! ## What a logging call consists of -/

/-- What holds of a logging call because it holds of all that the call consists of. -/
structure OfLogging (R : Manager → Traced → Prop) : Prop where
  idle : ∀ m, R m (m, [])
  andThen : ∀ {m : Manager} {t t' : Traced}, R m t → R t.1 t' → R m (t'.1, t.2 ++ t'.2)
  store : ∀ m s r, R m (m.store s r)
  count : ∀ m r, R m (m.countRecord r, [])

section

variable {R : Manager → Traced → Prop} (hR : OfLogging R)

include hR

theorem OfLogging.offerAll {take : Manager → Sink → Traced} (htake : ∀ m s, R m (take m s))
    (r : Record) (sinks : List Sink) : R m (offerAll take r sinks m) := by
  induction sinks generalizing m with
  | nil => exact hR.idle m
  | cons s rest ih =>
      have hfirst : R m (if m.accepts s r then take m s else (m, [])) := by
        split
        case isTrue _ => exact htake m s
        case isFalse _ => exact hR.idle m
      exact hR.andThen hfirst (ih _)

theorem OfLogging.dispatch {take : Record → Manager → Sink → Traced} (r : Record)
    (htake : ∀ m s, R m (take r m s)) : R m (m.dispatch take key r) := by
  have hoffer := hR.offerAll (m.countRecord r) htake r (m.sinksOf key)
  exact hR.andThen (hR.count m r) hoffer

theorem OfLogging.logRelayed (l : Level) (message : String) :
    R m (m.logRelayed site key l message) := by
  unfold Manager.logRelayed
  cases m.record? site key l message with
  | none => exact hR.idle m
  | some r => exact hR.dispatch m key r fun m s => hR.store m s r

theorem OfLogging.storeAndRelay (r : Record) (s : Sink) : R m (storeAndRelay site r m s) := by
  have hstore := hR.store m s r
  unfold Manager.storeAndRelay
  dsimp only
  split
  · exact hstore
  · next relay _ =>
      split
      · exact hstore
      · exact hR.andThen hstore (hR.logRelayed _ site relay.logger relay.level _)

/-- **Whatever sinks and relays do with a record, it holds of a logging call too.** -/
theorem OfLogging.logAt (l : Level) (message : String) : R m (m.logAt site key l message) := by
  unfold Manager.logAt
  cases m.record? site key l message with
  | none => exact hR.idle m
  | some r => exact hR.dispatch m key r fun m s => hR.storeAndRelay m site r s

/-- If it holds of an escalation as well, it holds of a notification. -/
theorem OfLogging.notify (hescalate : ∀ m e, R m ((m.escalate e).1, (m.escalate e).2.1))
    (message : String) :
    R m ((m.notify site key message).1, (m.notify site key message).2.1) := by
  have hlog := hR.logAt m site key Level.notify message
  unfold Manager.notify
  dsimp only
  split
  · exact hlog
  · exact hR.andThen hlog (hescalate _ _)

/-- It holds of a warning that is raised. -/
theorem OfLogging.raise (hescalate : ∀ m e, R m ((m.escalate e).1, (m.escalate e).2.1))
    (w : Warning) : R m ((m.raise site key w).1, (m.raise site key w).2.1) :=
  hR.andThen (hR.logAt m site key Level.warning w.text) (hescalate _ _)

/-- If it holds of every step of the remote sink, it holds of all that the sink does meanwhile. -/
theorem OfLogging.drift
    (hremote : ∀ {m : Manager} {s s' out} {a : Remote.Action}, m.remote = some s →
      s.step a = some (s', out) → R m (m.withRemote s' out, []))
    (as : List Remote.Action) : R m (m.drift as, []) :=
  drift_preserves (P := fun q => R m (q, [])) (hR.idle m)
    (fun h hs hstep => hR.andThen h (hremote hs hstep)) as

/-- And so it holds of trouble with a connection, with whatever the remote sink does meanwhile. -/
theorem OfLogging.network (hescalate : ∀ m e, R m ((m.escalate e).1, (m.escalate e).2.1))
    (hremote : ∀ {m : Manager} {s s' out} {a : Remote.Action}, m.remote = some s →
      s.step a = some (s', out) → R m (m.withRemote s' out, []))
    (message : String) (warning : Option String) (meanwhile : List Remote.Action) :
    R m ((m.network site key message warning meanwhile).1,
      (m.network site key message warning meanwhile).2.1) := by
  have hlog := hR.logAt m site key Level.network message
  unfold Manager.network
  generalize m.logAt site key Level.network message = t at hlog ⊢
  obtain ⟨m₁, logged⟩ := t
  dsimp only
  cases m₁.warning? key warning with
  | none => exact hlog
  | some w =>
      have hdrift := hR.drift m₁ hremote meanwhile
      have hraise := hR.raise (m₁.drift meanwhile) site key hescalate w
      exact hR.andThen hlog (hR.andThen hdrift hraise)

end

/-! ## What two logging calls consist of -/

/--
What holds of two logging calls because it holds of all that they consist of, side by
side. `S` is what the managers have to do with each other, and `E` the records.
-/
structure OfLoggings (S : Manager → Manager → Prop) (E : Record → Record → Prop)
    (R : Traced → Traced → Prop) : Prop where
  idle : ∀ {m m'}, S m m' → R (m, []) (m', [])
  andThen : ∀ {t t' t₁ t₁' : Traced}, R t t' → R t₁ t₁' →
    R (t₁.1, t.2 ++ t₁.2) (t₁'.1, t'.2 ++ t₁'.2)
  kept : ∀ {t t' : Traced}, R t t' → S t.1 t'.1
  accepts : ∀ {m m' r r'}, S m m' → E r r' → ∀ s, m.accepts s r = m'.accepts s r'
  relay : ∀ {m m'}, S m m' → ∀ s, m.relay? s = m'.relay? s
  message : ∀ {r r'}, E r r' → r.message = r'.message
  store : ∀ {m m' r r'}, S m m' → E r r' → ∀ s, R (m.store s r) (m'.store s r')
  count : ∀ {m m' r r'}, S m m' → E r r' → S (m.countRecord r) (m'.countRecord r')

section

variable {S : Manager → Manager → Prop} {E : Record → Record → Prop} {R : Traced → Traced → Prop}
  (hR : OfLoggings S E R) {m m' : Manager} {r r' : Record}

include hR

theorem OfLoggings.offerAll {take take' : Manager → Sink → Traced}
    (htake : ∀ {m m'}, S m m' → ∀ s, R (take m s) (take' m' s)) (hr : E r r') (sinks : List Sink)
    (h : S m m') : R (offerAll take r sinks m) (offerAll take' r' sinks m') := by
  induction sinks generalizing m m' with
  | nil => exact hR.idle h
  | cons s rest ih =>
      have hfirst : R (if m.accepts s r then take m s else (m, []))
          (if m'.accepts s r' then take' m' s else (m', [])) := by
        rw [hR.accepts h hr]
        split
        case isTrue _ => exact htake h s
        case isFalse _ => exact hR.idle h
      exact hR.andThen hfirst (ih (hR.kept hfirst))

/-- A record that is made on both sides goes to the same sinks; or none is made. -/
theorem OfLoggings.made {take : Record → Manager → Sink → Traced}
    (htake : ∀ {r r'}, E r r' → ∀ {m m'}, S m m' → ∀ s, R (take r m s) (take r' m' s))
    (h : S m m') {key : String} (hsinks : m.sinksOf key = m'.sinksOf key)
    {made made' : Option Record} :
    Option.Rel E made made' →
    R (match made with | some r => m.dispatch take key r | none => (m, []))
      (match made' with | some r => m'.dispatch take key r | none => (m', [])) := by
  intro hmade
  cases hmade with
  | none => exact hR.idle h
  | some hr =>
      dsimp only [Manager.dispatch]
      rw [hsinks]
      exact hR.offerAll (htake hr) hr _ (hR.count h hr)

/-- Two sinks relay alike, if what relays log is alike. -/
theorem OfLoggings.storeAndRelay (site : Site)
    (hrelayed : ∀ {m m'}, S m m' → ∀ key l message,
      R (m.logRelayed site key l message) (m'.logRelayed site key l message))
    (h : S m m') (hr : E r r') (s : Sink) :
    R (storeAndRelay site r m s) (storeAndRelay site r' m' s) := by
  have hstore := hR.store h hr s
  rw [Manager.storeAndRelay, Manager.storeAndRelay, hR.message hr]
  dsimp only
  -- a sink that logs on does so on both sides, and with the same message
  rw [hR.relay (hR.kept hstore) s]
  cases (m'.store s r').1.relay? s with
  | none => exact hstore
  | some relay =>
      dsimp only
      split
      · exact hstore
      · exact hR.andThen hstore (hrelayed (hR.kept hstore) relay.logger relay.level _)

end

/-! ## The rules -/

theorem sameRules_store (s : Sink) (r : Record) : SameRules m (m.store s r).1 := by
  cases s with
  | console => exact .refl m
  | memory id => exact sameRules_updateMemory m id r
  | remote => exact (ships_ship m r).rules

theorem ofLogging_sameRules : OfLogging fun m t => SameRules m t.1 :=
  ⟨.refl, .trans, sameRules_store, sameRules_countRecord⟩

theorem sameRules_logAt (l : Level) (message : String) :
    SameRules m (m.logAt site key l message).1 :=
  ofLogging_sameRules.logAt m site key l message

theorem sameRules_escalate (e : Escalation) : SameRules m (m.escalate e).1 :=
  (logs_escalate m e).rules

theorem sameRules_notify (message : String) :
    SameRules m (m.notify site key message).1 :=
  ofLogging_sameRules.notify m site key sameRules_escalate message

theorem sameRules_network (message : String) (warning : Option String)
    (meanwhile : List Remote.Action) :
    SameRules m (m.network site key message warning meanwhile).1 :=
  ofLogging_sameRules.network m site key sameRules_escalate
    (fun hs _ => sameRules_withRemote hs _ _) message warning meanwhile

theorem sameRules_drift (as : List Remote.Action) : SameRules m (m.drift as) :=
  ofLogging_sameRules.drift m (fun hs _ => sameRules_withRemote hs _ _) as

/-- **What an operation leaves to be raised is the rest of what passes.** -/
theorem passing_eq (o : Operation) :
    m.passing site o
      = m.passing site o.first ++ m.raised ((m.perform site o.first).1.raising? site o) := by
  cases o with
  | network name message warning =>
      have hget := sameRules_getLogger m name
      have hlog := sameRules_logAt (m.getLogger name).1 site (loggerName name) Level.network message
      simp only [Operation.first, perform_network, network_none, raising?, warning?,
        (hget.trans hlog).testMode]
      simp only [passing]
      cases warning with
      | none => simp [raised]
      | some text => cases m.testMode.isActive <;> simp [raised, warningOf]
  | _ => exact (List.append_nil _).symm

/-- The first part of an operation that leaves a warning to be raised is a logging call. -/
theorem sameRules_first {o : Operation} {r : Raising}
    (h : (m.perform site o.first).1.raising? site o = some r) :
    SameRules m (m.perform site o.first).1 := by
  cases o with
  | network name message warning =>
      have hlog := sameRules_logAt (m.getLogger name).1 site (loggerName name) Level.network message
      rw [Operation.first, perform_network, network_none]
      exact (sameRules_getLogger m name).trans hlog
  | _ => cases h

theorem SameRules.effectiveLevel {m m' : Manager} (h : SameRules m m') (key : String) :
    m'.effectiveLevel key = m.effectiveLevel key := by
  have hsubtree : m'.subtreeLevel? = m.subtreeLevel? := by
    funext p
    rw [subtreeLevel?, subtreeLevel?, h.subtrees]
  rw [effectiveLevel_eq, effectiveLevel_eq, h.logger, inheritedLevel, inheritedLevel,
    hsubtree, h.rootLevel]

end Herald.Manager
