import Herald.Proofs.Manager.LocalSide
import Herald.Proofs.Tally

/-!
# What sinks receive and what is counted

A logging call invokes its logger once or twice: a network trouble with a warning
text logs the warning as well. What a sink is `due` of one invocation follows from
the thresholds and attachments at that moment: the record, once for every time the
sink is attached to the logger or to the root, if the record passes both the
threshold of the logger and that of the sink. Where no sink logs on, what sinks
receive in a course is what they are due, in order, and nothing else.

A record that passed its logger's threshold is counted under the name of its level,
whether or not a sink takes it. The counters are found by the digests of the names,
so names of one digest are counted together. The count of a name is that of its
records exactly if no other name of its digest has passed.
-/

namespace Herald

namespace Manager

/-! ## What is due -/

/-- One invocation of a logger. -/
structure Invocation where
  key : String
  level : Level
  message : String

/-- Trouble with a connection is logged, and then the text of its warning unless that is held back. -/
def networkInvocations (m : Manager) (key message : String) (warning : Option String) :
    List Invocation :=
  ⟨key, Level.network, message⟩ ::
    match warning with
    | some text => if m.testMode.isActive then [] else [⟨key, Level.warning, text⟩]
    | none => []

/-- The invocations that an operation makes, in order. -/
def invocations (m : Manager) : Operation → List Invocation
  | .log name l message => [⟨loggerName name, l, message⟩]
  | .notify name message => [⟨loggerName name, Level.notify, message⟩]
  | .network name message warning => m.networkInvocations (loggerName name) message warning
  | _ => []

/-- How often a sink is attached to a logger or to the root. -/
def attachments (m : Manager) (key : String) (s : Sink) : Nat :=
  (m.logger key).sinks.count s + m.rootSinks.count s

/-- What a sink is to receive of an invocation. -/
def due (m : Manager) (site : Site) (s : Sink) (i : Invocation) : List Record :=
  if m.effectiveLevel i.key ≤ i.level ∧ m.threshold s ≤ i.level then
    List.replicate (m.attachments i.key s)
      { stamp := m.clock
        level := i.level
        levelName := i.level.name m.names
        message := i.message
        logger := i.key
        caller := Location.ofSite site.file site.line }
  else []

/-- The name under which an invocation is counted, if it passes its logger's threshold. -/
def counted? (m : Manager) (i : Invocation) : Option String :=
  if m.effectiveLevel i.key ≤ i.level then some (i.level.name m.names) else none

/-- What the console shows, if this is what happened. -/
def shown? : Event → Option Diagnostic
  | .said d => if d.target = "tidings_core::sink::tracing_sink" then some d else none
  | _ => none

/-- What the console shows, in order. -/
def shown (events : List Event) : List Diagnostic := events.filterMap shown?

theorem shown_append (events more : List Event) :
    shown (events ++ more) = shown events ++ shown more := List.filterMap_append

/-! ## One call -/

/-- What the sinks get on the way from `m` to the end of `t`, and what is counted. -/
structure Gets (m : Manager) (d : Sink → List Record) (ms : List Message) (names : List String)
    (t : Traced) : Prop where
  /-- Sinks in memory keep what they had and get these records. -/
  memory : ∀ id, (t.1.memory[id]?).map MemorySink.records
    = (m.memory[id]?).map fun s => s.records ++ d (.memory id)
  console : shown t.2 = (d .console).map Console.present
  /-- The remote sink, where there is one, is offered these messages. -/
  remote : m.remote.isSome = true → Remote.offered (shipped t.2) = ms
  there : t.1.remote.isSome = m.remote.isSome
  counted : t.1.metrics.records = names.foldl Tally.bump m.metrics.records

/-- Besides, nothing happens to the rules, so all messages are made in the same way. -/
structure Delivers (m : Manager) (d : Sink → List Record) (names : List String) (t : Traced) :
    Prop extends Gets m d ((d .remote).map m.messageOf) names t where
  rules : SameRules m t.1

section

variable {m m' : Manager} {d d' : Sink → List Record} {ms ms' : List Message}
  {names names' : List String} {events : List Event} {t : Traced} {r : Record}

theorem Gets.quiet (hmemory : m'.memory = m.memory) (hthere : m'.remote.isSome = m.remote.isSome)
    (hcounted : m'.metrics.records = m.metrics.records) :
    Gets m (fun _ => []) [] [] (m', []) where
  memory id := by simp [hmemory]
  console := rfl
  remote _ := rfl
  there := hthere
  counted := hcounted

theorem Gets.trans (h : Gets m d ms names (m', events)) (h' : Gets m' d' ms' names' t) :
    Gets m (fun s => d s ++ d' s) (ms ++ ms') (names ++ names') (t.1, events ++ t.2) where
  memory id := by
    have hfirst := congrArg (Option.map (· ++ d' (.memory id))) (h.memory id)
    rw [Option.map_map, Option.map_map] at hfirst
    rw [h'.memory id]
    refine hfirst.trans ?_
    congr 1
    funext s
    exact List.append_assoc _ _ _
  console := by
    rw [shown_append, show shown events = _ from h.console, h'.console, List.map_append]
  remote hm := by
    have hfirst : Remote.offered (shipped events) = ms := h.remote hm
    rw [shipped_append, Remote.offered_append, hfirst, h'.remote (h.there.trans hm)]
  there := h'.there.trans h.there
  counted := by
    rw [h'.counted, List.foldl_append, ← h.counted]

theorem Delivers.refl (m : Manager) : Delivers m (fun _ => []) [] (m, []) :=
  ⟨.quiet rfl rfl rfl, .refl m⟩

theorem Delivers.trans (h : Delivers m d names (m', events)) (h' : Delivers m' d' names' t) :
    Delivers m (fun s => d s ++ d' s) (names ++ names') (t.1, events ++ t.2) := by
  have hboth := h.toGets.trans h'.toGets
  -- the later messages are made as the earlier ones, for the format is the same
  rw [h.rules.messageOf, ← List.map_append] at hboth
  exact ⟨hboth, h.rules.trans h'.rules⟩

theorem Delivers.congr (h : Delivers m d names t) (hd : ∀ s, d s = d' s) (hnames : names = names') :
    Delivers m d' names' t := by
  obtain rfl := funext hd
  exact hnames ▸ h

/-! ### One sink -/

theorem offered_emit (s : Remote.Sink) (message : Message) :
    Remote.offered (s.emit message).2 = [message] := by
  have hcount : ∀ s : Remote.Sink, Remote.offered (s.attempt .count).2 = [] := by
    intro s
    unfold Remote.Sink.attempt Remote.Sink.step
    dsimp only
    split <;> rfl
  have hoffer : Remote.offered (s.attempt (.offer message)).2 = [message] := by
    unfold Remote.Sink.attempt Remote.Sink.step
    dsimp only
    split
    · rfl
    · split <;> rfl
  rw [Remote.Sink.emit]
  dsimp only
  rw [Remote.offered_append, hoffer, hcount, List.append_nil]

theorem delivers_ship (m : Manager) (r : Record) :
    Delivers m (fun s => if .remote = s then [r] else []) [] (m.ship r) where
  memory id := by
    have hmemory : (m.ship r).1.memory = m.memory := by
      unfold ship
      split <;> rfl
    simp [hmemory]
  console := by
    unfold ship
    split
    · rfl
    · rw [shown, List.filterMap_map]
      exact List.filterMap_eq_nil_iff.mpr fun _ _ => rfl
  remote hm := by
    obtain ⟨s, hs⟩ := Option.isSome_iff_exists.mp hm
    unfold ship
    rw [hs]
    dsimp only
    rw [shipped_map, offered_emit]
    rfl
  there := by
    unfold ship
    split
    · rfl
    · next hs =>
        rw [hs]
        rfl
  counted := congrArg LocalSide.records (sameOutcome_ship m.clock m r).alike
  rules := (ships_ship m r).rules

theorem delivers_store (m : Manager) (s : Sink) (r : Record) :
    Delivers m (fun s' => if s = s' then [r] else []) [] (m.store s r) := by
  cases s with
  | remote => exact delivers_ship m r
  | console =>
      refine ⟨⟨fun id => ?_, ?_, fun _ => rfl, rfl, rfl⟩, .refl m⟩
      · simp [store]
      · simp [store, shown, shown?, Console.present]
  | memory id =>
      refine ⟨⟨fun id' => ?_, ?_, fun _ => ?_, rfl, rfl⟩, sameRules_updateMemory m id r⟩
      · rw [store, updateMemory, List.getElem?_modify]
        cases m.memory[id']? with
        | none => rfl
        | some s => by_cases hid : id = id' <;> simp [hid]
      · rfl
      · rfl

/-! ### All sinks of a logger -/

/-- Sinks that do not log on: each gets the record as often as it occurs, if it takes it. -/
theorem delivers_offerAll {take : Manager → Sink → Traced}
    (htake : ∀ m', SameRules m m' → ∀ s, take m' s = m'.store s r) (sinks : List Sink)
    (hm : SameRules m m') :
    Delivers m' (fun s => if m.threshold s ≤ r.level then List.replicate (sinks.count s) r else [])
      [] (offerAll take r sinks m') := by
  induction sinks generalizing m' with
  | nil =>
      refine (Delivers.refl m').congr (fun s => ?_) rfl
      rw [List.count_nil, List.replicate_zero, ite_self]
  | cons s₀ rest ih =>
      -- the first sink gets the record if its threshold lets it through
      have hfirst : Delivers m'
          (fun s => if m.threshold s ≤ r.level then (if s₀ = s then [r] else []) else []) []
          (if m'.accepts s₀ r then take m' s₀ else (m', [])) := by
        rw [hm.accepts, Manager.accepts, Record.passes, htake m' hm]
        by_cases hlevel : m.threshold s₀ ≤ r.level
        · rw [decide_eq_true hlevel, if_pos rfl]
          refine (delivers_store m' s₀ r).congr (fun s => ?_) rfl
          by_cases hs : s₀ = s
          · rw [← hs, if_pos hlevel]
          · rw [if_neg hs, ite_self]
        · rw [decide_eq_false hlevel, if_neg Bool.false_ne_true]
          refine (Delivers.refl m').congr (fun s => ?_) rfl
          by_cases hs : s₀ = s
          · rw [← hs, if_neg hlevel]
          · rw [if_neg hs, ite_self]
      -- the thresholds are those of the start, whatever the first sink did
      have hall := hfirst.trans (ih (hm.trans hfirst.rules))
      refine hall.congr (fun s => ?_) rfl
      by_cases hlevel : m.threshold s ≤ r.level
      · rw [if_pos hlevel, if_pos hlevel, if_pos hlevel, List.count_cons, Nat.add_comm,
          ← List.replicate_append_replicate]
        by_cases hs : s₀ = s <;> simp [hs]
      · rw [if_neg hlevel, if_neg hlevel, if_neg hlevel, List.append_nil]

/-! ### Calls -/

theorem storeAndRelay_of_relay? {s : Sink} (hs : m.relay? s = none) (site : Site) (r : Record) :
    storeAndRelay site r m s = m.store s r := by
  have hafter : (m.store s r).1.relay? s = none := ((sameRules_store m s r).relay s).trans hs
  unfold storeAndRelay
  generalize m.store s r = t at hafter ⊢
  obtain ⟨m₁, events⟩ := t
  dsimp only at hafter ⊢
  rw [hafter]

theorem delivers_countRecord (m : Manager) (r : Record) :
    Delivers m (fun _ => []) [r.levelName] (m.countRecord r, []) := by
  refine ⟨⟨fun id => ?_, rfl, fun _ => rfl, rfl, rfl⟩, sameRules_countRecord m r⟩
  simp [countRecord]

/-- **A sink gets of an invocation what it is due.** -/
theorem delivers_logAt (hrelay : ∀ s, m.relay? s = none) (site : Site) (i : Invocation) :
    Delivers m (fun s => m.due site s i) (m.counted? i).toList
      (m.logAt site i.key i.level i.message) := by
  rw [logAt, record?_eq]
  by_cases hlevel : m.effectiveLevel i.key ≤ i.level
  · rw [isEnabledFor, decide_eq_true hlevel, if_pos rfl]
    dsimp only
    generalize hr : Record.of m.names m.clock i.level i.message i.key
      (Location.ofSite site.file site.line) = r
    -- first the record is counted, then it goes to the sinks, none of which logs on
    have hcount := delivers_countRecord m r
    have htake : ∀ m', SameRules (m.countRecord r) m' → ∀ s,
        storeAndRelay site r m' s = m'.store s r := by
      intro m' hm' s
      have hnone : m'.relay? s = none :=
        ((hcount.rules.trans hm').relay s).trans (hrelay s)
      exact storeAndRelay_of_relay? hnone site r
    have hoffer := delivers_offerAll htake (m.sinksOf i.key) (.refl _)
    refine (hcount.trans hoffer).congr (fun s => ?_) ?_
    · have hthreshold := hcount.rules.threshold s
      dsimp only at hthreshold
      rw [hthreshold, List.nil_append, sinksOf, List.count_append, due, attachments, ← hr]
      simp only [hlevel, true_and]
      rfl
    · rw [counted?, if_pos hlevel, ← hr]
      rfl
  · rw [isEnabledFor, decide_eq_false hlevel, if_neg Bool.false_ne_true]
    refine (Delivers.refl m).congr (fun s => ?_) ?_
    · rw [due, if_neg fun h => hlevel h.1]
    · rw [counted?, if_neg hlevel]
      rfl

/-- An escalation is nobody's record. -/
theorem delivers_escalate (m : Manager) (e : Escalation) :
    Delivers m (fun _ => []) [] ((m.escalate e).1, (m.escalate e).2.1) := by
  have hrules := sameRules_escalate m e
  have hmemory : ∀ id : Nat, (m.memory[id]?).map MemorySink.records
      = (m.memory[id]?).map fun s : MemorySink => s.records ++ [] := by
    simp
  unfold escalate Escalation.deliver at hrules ⊢
  cases hfind : m.accessor.find m.slot with
  | none =>
      rw [hfind] at hrules
      have hshown : shown? (.said e.missedDiagnostic) = none := by
        rw [shown?, e.target_missedDiagnostic, if_neg (by decide)]
      have hmissed : shown [.said e.missedDiagnostic] = [] := by
        rw [shown, List.filterMap_cons_none hshown, List.filterMap_nil]
      exact ⟨⟨hmemory, hmissed, fun _ => rfl, rfl, rfl⟩, hrules⟩
  | some a =>
      rw [hfind] at hrules
      cases a <;> exact ⟨⟨hmemory, rfl, fun _ => rfl, rfl, rfl⟩, hrules⟩

/-! ### Operations -/

theorem SameRules.due (h : SameRules m m') (site : Site) (s : Sink) :
    m'.due site s = m.due site s := by
  funext i
  rw [Manager.due, Manager.due, h.effectiveLevel, h.threshold, attachments, attachments, h.logger,
    h.rootSinks, h.clock, h.names]

theorem SameRules.counted? (h : SameRules m m') : m'.counted? = m.counted? := by
  funext i
  rw [Manager.counted?, Manager.counted?, h.effectiveLevel, h.names]

/-- What these invocations come to. -/
def Invokes (m : Manager) (site : Site) (is : List Invocation) (t : Traced) : Prop :=
  Delivers m (fun s => is.flatMap (m.due site s)) (is.filterMap m.counted?) t

theorem Invokes.refl (m : Manager) (site : Site) : Invokes m site [] (m, []) := Delivers.refl m

theorem Invokes.trans {site : Site} {is is' : List Invocation}
    (h : Invokes m site is (m', events)) (h' : Invokes m' site is' t) :
    Invokes m site (is ++ is') (t.1, events ++ t.2) := by
  have hboth := Delivers.trans h h'
  rw [h.rules.counted?] at hboth
  simp only [h.rules.due] at hboth
  exact hboth.congr (fun s => List.flatMap_append.symm) List.filterMap_append.symm

/-- Something that is not logged follows. -/
theorem Invokes.quiet {site : Site} {is : List Invocation}
    (h : Invokes m site is (m', events)) (h' : Delivers m' (fun _ => []) [] t) :
    Invokes m site is (t.1, events ++ t.2) := by
  have hnone : Invokes m' site [] t := h'
  have hboth := h.trans hnone
  rwa [List.append_nil] at hboth

theorem invokes_logAt (hrelay : ∀ s, m.relay? s = none) (site : Site) (i : Invocation) :
    Invokes m site [i] (m.logAt site i.key i.level i.message) := by
  refine (delivers_logAt hrelay site i).congr (fun s => ?_) ?_
  · rw [List.flatMap_singleton]
  · cases hname : m.counted? i <;> simp [hname]

theorem invokes_notify (hrelay : ∀ s, m.relay? s = none) (site : Site) (key message : String) :
    Invokes m site [⟨key, Level.notify, message⟩]
      ((m.notify site key message).1, (m.notify site key message).2.1) := by
  have hlog := invokes_logAt hrelay site ⟨key, Level.notify, message⟩
  unfold notify
  generalize m.logAt site key Level.notify message = t at hlog ⊢
  obtain ⟨m₁, logged⟩ := t
  dsimp only
  split
  · exact hlog
  · exact hlog.quiet (delivers_escalate m₁ _)

/-- What the remote sink does by itself is nobody's record either. -/
theorem delivers_withRemote {s : Remote.Sink} (hs : m.remote = some s) (s' : Remote.Sink)
    (out : List Remote.Signal) : Delivers m (fun _ => []) [] (m.withRemote s' out, []) := by
  refine ⟨.quiet rfl ?_ (congrArg LocalSide.records (alike_withRemote hs _ _)),
    sameRules_withRemote hs s' out⟩
  rw [hs]
  rfl

theorem delivers_drift (m : Manager) (as : List Remote.Action) :
    Delivers m (fun _ => []) [] (m.drift as, []) :=
  drift_preserves (P := fun q => Delivers m (fun _ => []) [] (q, [])) (.refl m)
    (fun h hs _ => h.trans (delivers_withRemote hs _ _)) as

theorem invokes_raise (hrelay : ∀ s, m.relay? s = none) (site : Site) (key : String) (w : Warning) :
    Invokes m site [⟨key, Level.warning, w.text⟩]
      ((m.raise site key w).1, (m.raise site key w).2.1) :=
  (invokes_logAt hrelay site ⟨key, Level.warning, w.text⟩).quiet (delivers_escalate _ _)

theorem invokes_network (hrelay : ∀ s, m.relay? s = none) (site : Site) (key message : String)
    (warning : Option String) (as : List Remote.Action) :
    Invokes m site (m.networkInvocations key message warning)
      ((m.network site key message warning as).1, (m.network site key message warning as).2.1) := by
  have hlog := invokes_logAt hrelay site ⟨key, Level.network, message⟩
  unfold network networkInvocations warning?
  dsimp only at hlog
  generalize m.logAt site key Level.network message = t at hlog ⊢
  obtain ⟨m₁, logged⟩ := t
  have htest : m₁.testMode = m.testMode := hlog.rules.testMode
  dsimp only
  rw [htest]
  cases warning with
  | none =>
      rw [Option.map_none, ite_self]
      exact hlog
  | some text =>
      -- the warning is raised under the rules of the first record, wherever the remote sink got
      have hdrift : Invokes m₁ site [] (m₁.drift as, []) := delivers_drift m₁ as
      have hnone : ∀ s, (m₁.drift as).relay? s = none := fun s =>
        ((hlog.rules.trans hdrift.rules).relay s).trans (hrelay s)
      have hraise := invokes_raise hnone site key (m₁.warningOf key text)
      dsimp only
      split
      case isTrue _ => exact hlog
      case isFalse _ => exact hlog.trans (hdrift.trans hraise)

theorem invokes_getLogger (name : String) {site : Site} {is : List Invocation}
    (h : Invokes (m.getLogger name).1 site is t) : Invokes m site is t := by
  have hget : Invokes m site [] ((m.getLogger name).1, []) :=
    ⟨.quiet rfl rfl rfl, sameRules_getLogger m name⟩
  exact hget.trans h

theorem relay?_of_memory (hmemory : m'.memory = m.memory) (s : Sink) : m'.relay? s = m.relay? s := by
  cases s with
  | memory id => rw [relay?, relay?, hmemory]
  | _ => rfl

/-- What an operation makes the sinks get, whatever rules it changes besides. -/
theorem gets_perform (hrelay : ∀ s, m.relay? s = none) (site : Site) (o : Operation)
    (as : List Remote.Action) :
    Gets m (fun s => (m.invocations o).flatMap (m.due site s))
        (((m.invocations o).flatMap (m.due site .remote)).map m.messageOf)
        ((m.invocations o).filterMap m.counted?)
        ((m.perform site o as).1, (m.perform site o as).2.1)
      ∧ ∀ s, (m.perform site o as).1.relay? s = none := by
  have hnone : ∀ name s, (m.getLogger name).1.relay? s = none := fun name s =>
    ((sameRules_getLogger m name).relay s).trans (hrelay s)
  have hkeep : ∀ {is t}, Invokes m site is t →
      Gets m (fun s => is.flatMap (m.due site s)) ((is.flatMap (m.due site .remote)).map m.messageOf)
          (is.filterMap m.counted?) t
        ∧ ∀ s, t.1.relay? s = none := fun h =>
    ⟨h.toGets, fun s => (h.rules.relay s).trans (hrelay s)⟩
  have hother : ∀ m' : Manager, m'.memory = m.memory → m'.remote = m.remote →
      m'.metrics = m.metrics → Gets m (fun _ => []) [] [] (m', []) ∧ ∀ s, m'.relay? s = none :=
    fun m' hmemory hremote hmetrics =>
      ⟨.quiet hmemory (congrArg _ hremote) (congrArg _ hmetrics),
        fun s => (relay?_of_memory hmemory s).trans (hrelay s)⟩
  -- what logs keeps the rules; what changes rules brings nothing to a sink
  cases o with
  | getLogger name => exact hkeep (invokes_getLogger name (.refl _ site))
  | log name l message =>
      have hlog := invokes_logAt (hnone name) site ⟨loggerName name, l, message⟩
      rw [perform_log]
      exact hkeep (invokes_getLogger name hlog)
  | notify name message =>
      have hnotify := invokes_notify (hnone name) site (loggerName name) message
      rw [perform_notify]
      exact hkeep (invokes_getLogger name hnotify)
  | network name message warning =>
      have hnetwork := invokes_network (hnone name) site (loggerName name) message warning as
      rw [perform_network]
      exact hkeep (invokes_getLogger name hnetwork)
  | attach place s => cases place <;> exact hother _ rfl rfl rfl
  | _ => exact hother _ rfl rfl rfl

end

/-! ## Whole courses -/

/-- What a sink is due in a move. -/
def dueIn (s : Sink) : Manager × Move → List Record
  | (m, .call c _) => (m.invocations c.operation).flatMap (m.due c.site s)
  | _ => []

/-- What a sink is due in a course, in order. -/
def dueAll (s : Sink) (hist : History) : List Record := hist.flatMap (dueIn s)

/-- What the remote sink is due in a move, as it is shipped at that moment. -/
def messagesIn (e : Manager × Move) : List Message := (dueIn .remote e).map e.1.messageOf

/-- What the remote sink is due in a course, in order. -/
def messagesAll (hist : History) : List Message := hist.flatMap messagesIn

/-- The names counted in a move. -/
def countedIn : Manager × Move → List String
  | (m, .call c _) => (m.invocations c.operation).filterMap m.counted?
  | _ => []

/-- The level names of the invocations that passed their loggers' thresholds, in order. -/
def countedAll (hist : History) : List String := hist.flatMap countedIn

theorem dueAll_snoc (s : Sink) (hist : History) (e : Manager × Move) :
    dueAll s (hist ++ [e]) = dueAll s hist ++ dueIn s e := by
  simp [dueAll]

theorem messagesAll_snoc (hist : History) (e : Manager × Move) :
    messagesAll (hist ++ [e]) = messagesAll hist ++ messagesIn e := by
  simp [messagesAll]

theorem countedAll_snoc (hist : History) (e : Manager × Move) :
    countedAll (hist ++ [e]) = countedAll hist ++ countedIn e := by
  simp [countedAll]

/-- The sinks have got in a course what they are due, and they still do not log on. -/
structure Got (m : Manager) (hist : History) (q : Manager) : Prop where
  gets : Gets m (fun s => dueAll s hist) (messagesAll hist) (countedAll hist) (q, events hist)
  relay : ∀ s, q.relay? s = none

section

variable {m q q' : Manager} {hist : History} {a : Move}

/-- A move that brings what is due in it. -/
theorem Got.next (h : Got m hist q)
    (hgets : Gets q (fun s => dueIn s (q, a)) (messagesIn (q, a)) (countedIn (q, a))
      (q', eventsIn (q, a)))
    (hrelay : ∀ s, q'.relay? s = none) : Got m (hist ++ [(q, a)]) q' := by
  have hboth := h.gets.trans hgets
  refine ⟨?_, hrelay⟩
  simp only [dueAll_snoc, messagesAll_snoc, countedAll_snoc, events_snoc]
  exact hboth

/-- What a call makes the sinks get; the stack does not bear on it. -/
theorem gets_run (hrelay : ∀ s, m.relay? s = none) (c : Call) (as : List Remote.Action) :
    Gets m (fun s => dueIn s (m, .call c as)) (messagesIn (m, .call c as))
        (countedIn (m, .call c as)) ((c.run m as).1, (c.run m as).2.1)
      ∧ ∀ s, (c.run m as).1.relay? s = none := by
  -- as a variable, so that no rewrite looks into the update
  obtain ⟨m', hm'⟩ : ∃ m', m' = { m with stack := c.stack } := ⟨_, rfl⟩
  have hstack : Invokes m c.site [] (m', []) := by
    subst hm'
    exact ⟨.quiet rfl rfl rfl, sameRules_stack m c.stack⟩
  have hinvocations : m'.invocations c.operation = m.invocations c.operation := by
    subst hm'
    cases c.operation <;> rfl
  obtain ⟨hgets, hnone⟩ := gets_perform (fun s => (hstack.rules.relay s).trans (hrelay s)) c.site
    c.operation as
  rw [hinvocations, hstack.rules.counted?, hstack.rules.messageOf] at hgets
  simp only [hstack.rules.due] at hgets
  rw [Call.run, ← hm']
  exact ⟨hstack.toGets.trans hgets, hnone⟩

/-- What happens between calls brings nothing, and nothing is due in it. -/
theorem gets_between (ha : a.call? = none) (hs : Step q a q') :
    Gets q (fun s => dueIn s (q, a)) (messagesIn (q, a)) (countedIn (q, a)) (q', eventsIn (q, a))
      ∧ q'.memory = q.memory := by
  cases hs with
  | call c as => cases ha
  | tick now => exact ⟨.quiet rfl rfl rfl, rfl⟩
  | remote a hs hstep => exact ⟨(delivers_withRemote hs _ _).toGets, rfl⟩

/-- **What sinks get in a course is what they are due.** -/
theorem got_course (h : Course m hist q) (hrelay : ∀ s, m.relay? s = none) : Got m hist q := by
  induction h with
  | start => exact ⟨.quiet rfl rfl rfl, hrelay⟩
  | @next hist q q' a _ hstep ih =>
      cases hcall : a.call? with
      | none =>
          obtain ⟨hgets, hmemory⟩ := gets_between hcall hstep
          exact ih.next hgets fun s => (relay?_of_memory hmemory s).trans (ih.relay s)
      | some c =>
          obtain ⟨as, rfl⟩ := Move.eq_call hcall
          cases hstep
          obtain ⟨hgets, hrelay⟩ := gets_run ih.relay c as
          exact ih.next hgets hrelay

/--
**Sinks receive what they are due, and what passes is counted by digest.**

In a course from a manager whose sinks do not log on, every sink in memory receives
what it is due of the invocations, in order and nothing else, the console shows what
it is due, and the remote sink is offered what it is due. The count of a level name
grows by the number of records that passed their loggers' thresholds with a name of
its digest. That is the number of its own records exactly if no other name of its
digest passed.
-/
theorem received_eq_due (h : Course m hist q) (hrelay : ∀ s ∈ m.memory, s.relay = none) :
    (∀ id, (q.memory[id]?).map MemorySink.records
        = (m.memory[id]?).map fun s => s.records ++ dueAll (.memory id) hist)
      ∧ shown (events hist) = (dueAll .console hist).map Console.present
      ∧ (m.remote.isSome = true →
          Remote.offered (shipped (events hist)) = messagesAll hist)
      ∧ (∀ label, q.metrics.records.count label = m.metrics.records.count label
          + (countedAll hist).countP fun name => Text.digest name = Text.digest label)
      ∧ (∀ label, q.metrics.records.count label
            = m.metrics.records.count label + (countedAll hist).count label
          ↔ ∀ name ∈ countedAll hist, Text.digest name = Text.digest label → name = label) := by
  have hnone : ∀ s, m.relay? s = none := by
    intro s
    cases s with
    | memory id =>
        rw [relay?]
        cases hid : m.memory[id]? with
        | none => rfl
        | some s => exact hrelay s (List.mem_of_getElem? hid)
    | _ => rfl
  have hgets := (got_course h hnone).gets
  have hcount : ∀ label, q.metrics.records.count label = m.metrics.records.count label
      + (countedAll hist).countP fun name => Text.digest name = Text.digest label := by
    intro label
    rw [hgets.counted, Tally.count_foldl_bump]
  refine ⟨hgets.memory, hgets.console, hgets.remote, hcount, fun label => ?_⟩
  rw [hcount, Nat.add_right_inj, Tally.countP_digest_eq_count_iff]

end

/-- A manager with a sink that takes the upper of the two levels and not the lower. -/
def twinStart : Manager :=
  assemble twinLevels
    { testMode := .forced true, rootSinks := [{ threshold := ⟨27⟩ }], clock := ⟨1, "", ""⟩ }
    Level.debug none

/-- One record at either level. -/
def twinCalls : List Call :=
  [.log "x" ⟨27⟩ "m", .log "y" ⟨26⟩ "m"].map fun o => { site := ⟨"app", 1⟩, operation := o }

/-- Both records are counted under either name; the sink receives one of them. -/
theorem received_eq_due_twinRun :
    Registry.defaults.registerAll [("JLMJLLDJJBHFMJHL", 26), ("GKGFBGPIHKAAPCCD", 27)]
        = .ok twinLevels
      ∧ ∃ hist q, Course twinStart hist q ∧ calls hist = twinCalls
        ∧ (q.memory[0]?).map (fun s => s.records.map Record.level) = some [⟨27⟩]
        ∧ countedAll hist = ["GKGFBGPIHKAAPCCD", "JLMJLLDJJBHFMJHL"]
        ∧ q.metrics.records.count "JLMJLLDJJBHFMJHL" = 2 := by
  have hcourse := course_of_calls twinStart twinCalls
  obtain ⟨hmemory, -, -, hcount, -⟩ := received_eq_due hcourse (by simp [twinStart, assemble])
  refine ⟨by decide +kernel, _, _, hcourse, rfl, ?_, by decide +kernel, ?_⟩
  · have hlevels := congrArg (Option.map (List.map Record.level)) (hmemory 0)
    rw [Option.map_map, Option.map_map] at hlevels
    refine hlevels.trans ?_
    decide +kernel
  · rw [hcount]
    decide +kernel

end Manager

end Herald
