import Mathlib.Data.List.Dedup
import Herald.Proofs.Manager.Threshold

/-!
# The loggers of a manager

Most operations are about one logger. Each of them makes it if there is none of its
name, and changes it and no other (`sameLoggers_perform`); logging changes none. So
the loggers are those asked for, in the order in which they were first asked for, and
no logger goes again or is made twice. What a logger has is what it started with and
what the operations about it made of that, whatever happened to others.
-/

namespace Herald

namespace Operation

/-- The logger that an operation is about, if it is about one. -/
def logger? : Operation → Option String
  | .getLogger name | .log name _ _ | .notify name _ | .network name _ _
  | .setLoggerLevel name _ | .attach (some name) _ => some (Manager.loggerName name)
  | _ => none

/-- The sink that an operation attaches to this logger. -/
def attached? (key : String) : Operation → Option Sink
  | .attach (some name) s => if Manager.loggerName name = key then some s else none
  | _ => none

/-- What an operation makes of the logger of this name. -/
def onLogger (key : String) (o : Operation) (lg : Logger) : Logger :=
  { lg with
    level := (o.ownLevel? key).getD lg.level
    sinks := lg.sinks ++ (o.attached? key).toList }

theorem name_onLogger (key : String) (o : Operation) (lg : Logger) :
    (o.onLogger key lg).name = lg.name := rfl

variable {key : String} {o : Operation}

theorem onLogger_eq_id (hlevel : o.ownLevel? key = none) (hattached : o.attached? key = none) :
    o.onLogger key = id := by
  funext lg
  rw [onLogger, hlevel, hattached, Option.getD_none, Option.toList_none, List.append_nil, id]

/-- An operation says nothing of a logger that it is not about. -/
theorem silent_of_ne (h : o.logger? ≠ some key) : o.ownLevel? key = none ∧ o.attached? key = none := by
  have hne : ∀ {name}, o.logger? = some (Manager.loggerName name) →
      Manager.loggerName name ≠ key := by
    rintro name ho rfl
    exact h ho
  cases o with
  | setLoggerLevel name l => exact ⟨if_neg (hne rfl), rfl⟩
  | attach place s =>
      cases place with
      | none => exact ⟨rfl, rfl⟩
      | some name => exact ⟨rfl, if_neg (hne rfl)⟩
  | _ => exact ⟨rfl, rfl⟩

end Operation

/-- The loggers that these operations are about, one after the other. -/
def asked (ops : List Operation) : List String := ops.filterMap Operation.logger?

theorem asked_snoc (ops : List Operation) (o : Operation) :
    asked (ops ++ [o]) = asked ops ++ o.logger?.toList := by
  rw [asked, List.filterMap_append]
  cases ho : o.logger? <;> simp [ho, asked]

/-- Of a logger that was not asked for nothing was said. -/
theorem silent_of_not_mem_asked {ops : List Operation} {key : String} (h : key ∉ asked ops) :
    latest (Operation.ownLevel? key) ops = none
      ∧ ops.filterMap (Operation.attached? key) = [] := by
  have hsilent : ∀ o ∈ ops, o.ownLevel? key = none ∧ o.attached? key = none := fun o ho =>
    Operation.silent_of_ne fun hkey => h (List.mem_filterMap.mpr ⟨o, ho, hkey⟩)
  refine ⟨?_, List.filterMap_eq_nil_iff.mpr fun o ho => (hsilent o ho).2⟩
  rw [latest, List.filterMap_eq_nil_iff.mpr fun o ho => (hsilent o ho).1]
  rfl

/-- These names and one more, unless it is among them. -/
def named (keys : List String) (key : String) : List String :=
  if key ∈ keys then keys else keys ++ [key]

theorem mem_named {keys : List String} {key k : String} : k ∈ named keys key ↔ k ∈ keys ∨ k = key := by
  rw [named]
  split
  case isTrue hmem => exact ⟨.inl, fun h => h.elim id fun heq => heq ▸ hmem⟩
  case isFalse _ => rw [List.mem_append, List.mem_singleton]

theorem nodup_named {keys : List String} (h : keys.Nodup) (key : String) : (named keys key).Nodup := by
  rw [named]
  split
  case isTrue _ => exact h
  case isFalse hmem =>
    rw [← List.concat_eq_append]
    exact h.concat hmem

theorem mem_foldl_named {keys more : List String} {k : String} :
    k ∈ more.foldl named keys ↔ k ∈ keys ∨ k ∈ more := by
  induction more generalizing keys with
  | nil => simp
  | cons key more ih => rw [List.foldl_cons, ih, mem_named, List.mem_cons, or_assoc]

theorem nodup_foldl_named {keys : List String} (h : keys.Nodup) (more : List String) :
    (more.foldl named keys).Nodup :=
  List.foldlRecOn more named h fun _ hkeys key _ => nodup_named hkeys key

/-- Names gathered one by one are as many as there are different ones. -/
theorem length_foldl_named (names : List String) :
    (names.foldl named []).length = names.dedup.length := by
  have hsame : ∀ key, key ∈ names.foldl named [] ↔ key ∈ names.dedup := by
    intro key
    rw [mem_foldl_named, List.mem_dedup]
    exact or_iff_right List.not_mem_nil
  have hgathered := nodup_foldl_named List.nodup_nil names
  exact ((List.perm_ext_iff_of_nodup hgathered (List.nodup_dedup names)).mpr hsame).length_eq

namespace Manager

/-- The names of the loggers that have been made, the oldest first. -/
def loggerNames (m : Manager) : List String := m.loggers.bindings.map Prod.fst

/-- No logger is made or changed, and there is a remote sink in both or in none. -/
structure SameLoggers (m m' : Manager) : Prop where
  loggers : m'.loggers = m.loggers
  there : m'.remote.isSome = m.remote.isSome

variable {m m' q q' : Manager} {hist : History} {ops : List Operation} {o : Operation}

theorem SameLoggers.refl (m : Manager) : SameLoggers m m := ⟨rfl, rfl⟩

theorem freshLogger_eq (m : Manager) (key : String) :
    m.freshLogger key
      = { name := key
          sinks := if m.remote.isSome then [.remote] else []
          remoteAttached := m.remote.isSome } := by
  rw [freshLogger]
  cases m.remote <;> rfl

theorem SameLoggers.logger (h : SameLoggers m m') (key : String) : m'.logger key = m.logger key := by
  rw [Manager.logger, Manager.logger, h.loggers, freshLogger_eq, freshLogger_eq, h.there]

/-! ## One operation -/

theorem sameLoggers_store (m : Manager) (s : Sink) (r : Record) :
    SameLoggers m (m.store s r).1 := by
  cases s with
  | console => exact .refl m
  | memory id => exact ⟨rfl, rfl⟩
  | remote =>
      change SameLoggers m (m.ship r).1
      unfold ship
      cases hremote : m.remote with
      | none => exact .refl m
      | some s => exact ⟨rfl, by rw [hremote]; rfl⟩

theorem ofLogging_sameLoggers : OfLogging fun m t => SameLoggers m t.1 :=
  ⟨.refl, fun h h' => ⟨h'.loggers.trans h.loggers, h'.there.trans h.there⟩, sameLoggers_store,
    fun _ _ => ⟨rfl, rfl⟩⟩

theorem sameLoggers_withRemote {s : Remote.Sink} (hs : m.remote = some s) (s' : Remote.Sink)
    (out : List Remote.Signal) : SameLoggers m (m.withRemote s' out) :=
  ⟨rfl, by rw [hs]; rfl⟩

/-- Where there is no logger yet, one is made, and then it is changed. -/
theorem updateLogger_getLogger (m : Manager) (name : String) {f : Logger → Logger}
    (hf : ∀ l, (f l).name = l.name) :
    (m.getLogger name).1.updateLogger (loggerName name) f = m.updateLogger (loggerName name) f := by
  have hlogger := (sameRules_getLogger m name).logger (loggerName name)
  rw [updateLogger, hlogger, getLogger, updateLogger]
  dsimp only
  rw [LoggerCache.set_set (hf _)]

/-- **An operation makes and changes the logger that it is about, and no other.** -/
theorem sameLoggers_perform (q : Manager) (site : Site) (o : Operation) (as : List Remote.Action) :
    SameLoggers
      (match o.logger? with
        | some key => q.updateLogger key (o.onLogger key)
        | none => q)
      (q.perform site o as).1 := by
  -- what only needs its logger to be there leaves it as it was, and logging does so too
  have hmade : ∀ {name : String} {m' : Manager}, o.onLogger (loggerName name) = id →
      SameLoggers (q.getLogger name).1 m' →
      SameLoggers (q.updateLogger (loggerName name) (o.onLogger (loggerName name))) m' := by
    intro name m' hid hsame
    rw [hid]
    exact hsame
  cases o with
  | getLogger name => exact hmade (Operation.onLogger_eq_id rfl rfl) (.refl _)
  | log name l message =>
      rw [perform_log]
      exact hmade (Operation.onLogger_eq_id rfl rfl)
        (ofLogging_sameLoggers.logAt _ site (loggerName name) l message)
  | notify name message =>
      rw [perform_notify]
      exact hmade (Operation.onLogger_eq_id rfl rfl)
        (ofLogging_sameLoggers.notify _ site (loggerName name) (fun _ _ => ⟨rfl, rfl⟩) message)
  | network name message warning =>
      rw [perform_network]
      exact hmade (Operation.onLogger_eq_id rfl rfl)
        (ofLogging_sameLoggers.network _ site (loggerName name) (fun _ _ => ⟨rfl, rfl⟩)
          (fun hs _ => sameLoggers_withRemote hs _ _) message warning as)
  | setLoggerLevel name l =>
      have hset : (Operation.setLoggerLevel name l).onLogger (loggerName name)
          = fun lg => { lg with level := l } := by
        funext lg
        simp [Operation.onLogger, Operation.ownLevel?, Operation.attached?]
      rw [perform_setLoggerLevel, setLoggerLevel, ← hset,
        updateLogger_getLogger _ _ (Operation.name_onLogger _ _)]
      exact .refl _
  | attach place s =>
      cases place with
      | none => exact ⟨rfl, rfl⟩
      | some name =>
          have hadd : (Operation.attach (some name) s).onLogger (loggerName name)
              = fun lg => { lg with sinks := lg.sinks ++ [s] } := by
            funext lg
            simp [Operation.onLogger, Operation.ownLevel?, Operation.attached?]
          rw [perform_attach, addSink, ← hadd,
            updateLogger_getLogger _ _ (Operation.name_onLogger _ _)]
          exact .refl _
  | _ => exact ⟨rfl, rfl⟩

theorem logger_perform (q : Manager) (site : Site) (o : Operation) (as : List Remote.Action)
    (key : String) : (q.perform site o as).1.logger key = o.onLogger key (q.logger key) := by
  have hlogger := (sameLoggers_perform q site o as).logger key
  by_cases ho : o.logger? = some key
  · rw [ho] at hlogger
    rw [hlogger, logger_updateLogger _ _ _ (o.name_onLogger key), if_pos rfl]
  · obtain ⟨hlevel, hattached⟩ := Operation.silent_of_ne ho
    rw [Operation.onLogger_eq_id hlevel hattached, id]
    refine hlogger.trans ?_
    split
    case h_1 key' hkey' =>
      have hne : key' ≠ key := by
        rintro rfl
        exact ho hkey'
      rw [logger_updateLogger _ _ _ (o.name_onLogger key'), if_neg hne]
    case h_2 => rfl

/-- A change that keeps the name of a logger keeps the logger where it was, or makes it the last. -/
theorem loggerNames_updateLogger (m : Manager) (key : String) {f : Logger → Logger}
    (hf : ∀ l, (f l).name = l.name) :
    (m.updateLogger key f).loggerNames = named m.loggerNames key := by
  have hname : (f (m.logger key)).name = key := by rw [hf, name_logger]
  refine (Table.keys_set m.loggers.bindings (f (m.logger key)).name (f (m.logger key))).trans ?_
  rw [hname]
  rfl

theorem loggerNames_perform (q : Manager) (site : Site) (o : Operation) (as : List Remote.Action) :
    (q.perform site o as).1.loggerNames = o.logger?.toList.foldl named q.loggerNames := by
  rw [loggerNames, (sameLoggers_perform q site o as).loggers]
  cases o.logger? with
  | none => rfl
  | some key => exact loggerNames_updateLogger q key (o.name_onLogger key)

/-! ## A whole course -/

/-- The loggers are those of `m` and those asked for, with the sinks attached to them since. -/
structure Keeps (m : Manager) (ops : List Operation) (q : Manager) : Prop where
  names : q.loggerNames = (asked ops).foldl named m.loggerNames
  sinks : ∀ key, (q.logger key).sinks
    = (m.logger key).sinks ++ ops.filterMap (Operation.attached? key)
  remoteAttached : ∀ key, (q.logger key).remoteAttached = (m.logger key).remoteAttached

theorem Keeps.same (h : Keeps m ops q) (hsame : SameLoggers q q') : Keeps m ops q' where
  names := by rw [loggerNames, hsame.loggers, ← h.names, loggerNames]
  sinks key := by rw [hsame.logger, h.sinks]
  remoteAttached key := by rw [hsame.logger, h.remoteAttached]

theorem Keeps.perform (h : Keeps m ops q) (site : Site) (o : Operation) (as : List Remote.Action) :
    Keeps m (ops ++ [o]) (q.perform site o as).1 where
  names := by rw [loggerNames_perform, h.names, asked_snoc, List.foldl_append]
  sinks key := by
    rw [logger_perform, List.filterMap_append, ← List.append_assoc, ← h.sinks]
    cases ho : o.attached? key <;> simp [ho, Operation.onLogger]
  remoteAttached key := by rw [logger_perform, ← h.remoteAttached, Operation.onLogger]

/-- **After any course the loggers are those asked for, as the operations about them left them.** -/
theorem keeps_course (h : Course m hist q) : Keeps m (operations hist) q := by
  induction h with
  | start => exact ⟨rfl, fun key => (List.append_nil _).symm, fun key => rfl⟩
  | @next hist q q' a _ hstep ih =>
      rw [operations_snoc]
      cases hstep with
      | call c as =>
          have hstack : SameLoggers q { q with stack := c.stack } := ⟨rfl, rfl⟩
          exact (ih.same hstack).perform c.site c.operation as
      | tick now =>
          have htick : SameLoggers q { q with clock := now } := ⟨rfl, rfl⟩
          simpa [Move.call?] using ih.same htick
      | remote a hs hstep => simpa [Move.call?] using ih.same (sameLoggers_withRemote hs _ _)

/-! ## Managers as they are built -/

/-- A manager has a remote sink exactly if shipping is on, and no logger has been made. -/
theorem loggers_of_build {names : Registry} {plan : Plan} {events : List Event}
    (hbuild : build names plan = .ok (m, events)) :
    m.loggers = {} ∧ m.remote.isSome = plan.config.remote.enabled := by
  obtain ⟨root, -, hbuilt⟩ := ((build_iff names plan).1 _).mp hbuild
  obtain ⟨rfl, -⟩ := Prod.mk.inj hbuilt
  exact ⟨rfl, plan.isSome_sink?⟩

/-- As every logger starts: without a level of its own, and with the remote sink if there is one. -/
theorem logger_of_build {names : Registry} {plan : Plan} {events : List Event}
    (hbuild : build names plan = .ok (m, events)) (key : String) :
    m.logger key
      = { name := key
          sinks := if plan.config.remote.enabled then [.remote] else []
          remoteAttached := plan.config.remote.enabled } := by
  obtain ⟨hnone, hthere⟩ := loggers_of_build hbuild
  rw [logger, hnone, LoggerCache.get?, Table.get?_nil, Option.getD_none, freshLogger_eq, hthere]

end Manager

end Herald
