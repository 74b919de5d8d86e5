import Herald.Manager.Operation
import Herald.Proofs.Remote.Emission

/-!
# What a logging call ships

A logging call makes records, and which ones depends on the thresholds alone:
`logged` says it without a look at any sink that takes them. A call that passes its
logger's threshold makes one record, and every relay that gets to see this record
makes one more if its own logger lets it through.

While a call runs the rules by which records pass stay as they are (`SameRules`).
So as long as the remote sink is attached to every logger once and in front, and to
nothing else (`Attached`), a call puts exactly its records into the queue of the
remote sink, in order and each once (`Ships`), and counts each of them under the name
of its level (`Logs`).
-/

namespace Herald

namespace Manager

/-! ## The records of a call -/

/-- The record that a sink's relay makes of a record, if it gets to see it and may log it. -/
def relayed? (m : Manager) (site : Site) (r : Record) (s : Sink) : Option Record :=
  if m.accepts s r ∧ isRelayed r.message = false then
    (m.relay? s).bind fun relay =>
      m.record? site relay.logger relay.level (relayMark ++ r.message)
  else none

/-- The records that a call makes, its own first. -/
def logged (m : Manager) (site : Site) (key : String) (l : Level) (message : String) :
    List Record :=
  match m.record? site key l message with
  | some r => r :: (m.sinksOf key).filterMap (m.relayed? site r)
  | none => []

/-- The records that an operation makes. -/
def passing (m : Manager) (site : Site) : Operation → List Record
  | .log name l message => m.logged site (loggerName name) l message
  | .notify name message => m.logged site (loggerName name) Level.notify message
  | .network name message warning =>
    m.logged site (loggerName name) Level.network message ++
      match warning with
      | some text =>
        if m.testMode.isActive then [] else m.logged site (loggerName name) Level.warning text
      | none => []
  | _ => []

/-- What is shipped of a record. -/
def messageOf (m : Manager) (r : Record) : Message :=
  Message.ofRecord m.clock.seconds r (m.format r)

theorem levelName_of_record? {m : Manager} {site : Site} {key message : String} {l : Level}
    {r : Record} (h : m.record? site key l message = some r) :
    r.levelName = r.level.name m.names := by
  rw [record?] at h
  split at h
  case isTrue =>
    rw [← Option.some.inj h]
    rfl
  case isFalse => cases h

theorem levelName_of_mem_logged {m : Manager} {site : Site} {key message : String} {l : Level}
    {r : Record} (h : r ∈ m.logged site key l message) : r.levelName = r.level.name m.names := by
  unfold logged at h
  split at h
  case h_2 => cases h
  case h_1 own hown =>
    rcases List.mem_cons.mp h with rfl | h
    · exact levelName_of_record? hown
    · obtain ⟨s, -, hrelayed⟩ := List.mem_filterMap.mp h
      rw [relayed?] at hrelayed
      split at hrelayed
      case isFalse => cases hrelayed
      case isTrue =>
        obtain ⟨relay, -, hrelayed⟩ := Option.bind_eq_some_iff.mp hrelayed
        exact levelName_of_record? hrelayed

/-- Every record has the name of its level. -/
theorem levelName_of_mem_passing {m : Manager} {site : Site} {o : Operation} {r : Record}
    (h : r ∈ m.passing site o) : r.levelName = r.level.name m.names := by
  cases o with
  | log name l message => exact levelName_of_mem_logged h
  | notify name message => exact levelName_of_mem_logged h
  | network name message warning =>
      rcases List.mem_append.mp h with h | h
      · exact levelName_of_mem_logged h
      · split at h
        · split at h
          · cases h
          · exact levelName_of_mem_logged h
        · cases h
  | _ => cases h

/-! ## What stays as it is -/

/-- Records pass in both by the same rules, and look the same. -/
structure SameRules (m m' : Manager) : Prop where
  names : m'.names = m.names
  rootLevel : m'.rootLevel = m.rootLevel
  subtrees : m'.subtrees = m.subtrees
  logger : ∀ key, m'.logger key = m.logger key
  rootSinks : m'.rootSinks = m.rootSinks
  threshold : ∀ s, m'.threshold s = m.threshold s
  relay : ∀ s, m'.relay? s = m.relay? s
  clock : m'.clock = m.clock
  format : m'.format = m.format
  testMode : m'.testMode = m.testMode

theorem SameRules.refl (m : Manager) : SameRules m m :=
  ⟨rfl, rfl, rfl, fun _ => rfl, rfl, fun _ => rfl, fun _ => rfl, rfl, rfl, rfl⟩

theorem SameRules.trans {m m' m'' : Manager} (h : SameRules m m') (h' : SameRules m' m'') :
    SameRules m m'' where
  names := h'.names.trans h.names
  rootLevel := h'.rootLevel.trans h.rootLevel
  subtrees := h'.subtrees.trans h.subtrees
  logger key := (h'.logger key).trans (h.logger key)
  rootSinks := h'.rootSinks.trans h.rootSinks
  threshold s := (h'.threshold s).trans (h.threshold s)
  relay s := (h'.relay s).trans (h.relay s)
  clock := h'.clock.trans h.clock
  format := h'.format.trans h.format
  testMode := h'.testMode.trans h.testMode

section SameRules

variable {m m' : Manager} (h : SameRules m m')

include h

theorem SameRules.record? (site : Site) (key : String) (l : Level) (message : String) :
    m'.record? site key l message = m.record? site key l message := by
  have hsubtree : m'.subtreeLevel? = m.subtreeLevel? := by
    funext name
    rw [subtreeLevel?, subtreeLevel?, h.subtrees]
  have heffective : m'.effectiveLevel key = m.effectiveLevel key := by
    rw [effectiveLevel_eq, effectiveLevel_eq, h.logger, inheritedLevel, inheritedLevel, hsubtree,
      h.rootLevel]
  rw [record?_eq, record?_eq, isEnabledFor, isEnabledFor, heffective, h.names, h.clock]

theorem SameRules.sinksOf (key : String) : m'.sinksOf key = m.sinksOf key := by
  rw [Manager.sinksOf, Manager.sinksOf, h.logger, h.rootSinks]

theorem SameRules.accepts (s : Sink) (r : Record) : m'.accepts s r = m.accepts s r := by
  rw [Manager.accepts, Manager.accepts, h.threshold]

theorem SameRules.relayed? (site : Site) (r : Record) :
    m'.relayed? site r = m.relayed? site r := by
  funext s
  have hrecord : m'.record? site = m.record? site := by
    funext key l message
    exact h.record? site key l message
  rw [Manager.relayed?, Manager.relayed?, h.accepts, h.relay, hrecord]

theorem SameRules.logged (site : Site) (key : String) (l : Level) (message : String) :
    m'.logged site key l message = m.logged site key l message := by
  rw [Manager.logged, Manager.logged, h.record?, h.sinksOf]
  simp only [h.relayed?]

theorem SameRules.passing (site : Site) (o : Operation) : m'.passing site o = m.passing site o := by
  cases o with
  | log name l message => exact h.logged _ _ _ _
  | notify name message => exact h.logged _ _ _ _
  | network name message warning => simp only [Manager.passing, h.logged, h.testMode]
  | _ => rfl

theorem SameRules.messageOf : m'.messageOf = m.messageOf := by
  funext r
  rw [Manager.messageOf, Manager.messageOf, h.clock, h.format]

end SameRules

/-- The remote sink is there, in front of every logger's sinks, and nowhere else. -/
structure Attached (m : Manager) : Prop where
  there : m.remote.isSome = true
  /-- Each logger has it once. -/
  first : ∀ key, ∃ rest, (m.logger key).sinks = .remote :: rest ∧ .remote ∉ rest
  /-- It is not among the sinks that see the records of all loggers. -/
  notRoot : .remote ∉ m.rootSinks

theorem Attached.of_sameRules {m m' : Manager} (h : Attached m) (hs : SameRules m m')
    (hr : m'.remote.isSome = true) : Attached m' where
  there := hr
  first key := by
    rw [hs.logger]
    exact h.first key
  notRoot := by
    rw [hs.rootSinks]
    exact h.notRoot

/-- The sinks behind the remote one. -/
theorem Attached.sinksOf {m : Manager} (h : Attached m) (key : String) :
    ∃ rest, m.sinksOf key = .remote :: rest ∧ .remote ∉ rest := by
  obtain ⟨rest, hfirst, hrest⟩ := h.first key
  refine ⟨rest ++ m.rootSinks, ?_, ?_⟩
  · rw [Manager.sinksOf, hfirst, List.cons_append]
  · rw [List.mem_append, not_or]
    exact ⟨hrest, h.notRoot⟩

/-! ## Shipping -/

/-- The signal of the remote sink, if this is what happened. -/
def shipping? : Event → Option Remote.Signal
  | .shipping signal => some signal
  | _ => none

/-- What the remote sink let be seen. -/
def shipped (events : List Event) : List Remote.Signal := events.filterMap shipping?

theorem shipped_append (events more : List Event) :
    shipped (events ++ more) = shipped events ++ shipped more := List.filterMap_append

theorem shipped_map (signals : List Remote.Signal) :
    shipped (signals.map Event.shipping) = signals := by
  rw [shipped, List.filterMap_map]
  exact List.filterMap_some

/-- The rules stay, and exactly these records go into the queue. -/
structure Ships (m : Manager) (rs : List Record) (t : Traced) : Prop where
  rules : SameRules m t.1
  remote : ∀ s, m.remote = some s → t.1.remote = some (s.emitAll (rs.map m.messageOf)).1
  signals : ∀ s, m.remote = some s → shipped t.2 = (s.emitAll (rs.map m.messageOf)).2

section Ships

variable {m m' : Manager} {rs rs' : List Record} {events : List Event} {t : Traced}

/-- Something that has nothing to do with the remote sink. -/
theorem Ships.quiet (hr : SameRules m m') (hremote : m'.remote = m.remote)
    (hshipped : shipped events = []) : Ships m [] (m', events) where
  rules := hr
  remote _ hs := hremote.trans hs
  signals _ _ := hshipped

theorem Ships.refl (m : Manager) : Ships m [] (m, []) := .quiet (.refl m) rfl rfl

/-- One thing after the other. -/
theorem Ships.trans (h : Ships m rs (m', events)) (h' : Ships m' rs' t) :
    Ships m (rs ++ rs') (t.1, events ++ t.2) where
  rules := h.rules.trans h'.rules
  remote s hs := by
    have hnext := h'.remote _ (h.remote s hs)
    rw [h.rules.messageOf] at hnext
    rw [hnext, List.map_append, Remote.Sink.emitAll_append]
  signals s hs := by
    have hfirst := h.signals s hs
    have hnext := h'.signals _ (h.remote s hs)
    rw [h.rules.messageOf] at hnext
    dsimp only at hfirst ⊢
    rw [shipped_append, hfirst, hnext, List.map_append, Remote.Sink.emitAll_append]

theorem Ships.attached (h : Ships m rs t) (ha : Attached m) : Attached t.1 := by
  refine ha.of_sameRules h.rules ?_
  obtain ⟨s, hs⟩ := Option.isSome_iff_exists.mp ha.there
  rw [h.remote s hs]
  rfl

/-- Besides, exactly these records are counted. -/
structure Logs (m : Manager) (rs : List Record) (t : Traced) : Prop extends Ships m rs t where
  counted : t.1.metrics.records
    = (rs.map Record.levelName).foldl Tally.bump m.metrics.records

/-- Something that has to do neither with the remote sink nor with the counts of records. -/
theorem Logs.quiet (hr : SameRules m m') (hremote : m'.remote = m.remote)
    (hshipped : shipped events = []) (hrecords : m'.metrics.records = m.metrics.records) :
    Logs m [] (m', events) := ⟨.quiet hr hremote hshipped, hrecords⟩

theorem Logs.refl (m : Manager) : Logs m [] (m, []) := ⟨.refl m, rfl⟩

theorem Logs.trans (h : Logs m rs (m', events)) (h' : Logs m' rs' t) :
    Logs m (rs ++ rs') (t.1, events ++ t.2) where
  toShips := h.toShips.trans h'.toShips
  counted := by
    rw [List.map_append, List.foldl_append, ← h.counted]
    exact h'.counted

end Ships

variable {m : Manager} {site : Site} {key message : String} {l : Level} {r : Record}

/-! ### One sink -/

/-- What the remote sink does is not counted among the records. -/
theorem records_withRemote (m : Manager) (s : Remote.Sink) (signals : List Remote.Signal) :
    (m.withRemote s signals).metrics.records = m.metrics.records := by
  have hone : ∀ (t : Metrics) (signal : Remote.Signal),
      (countSignal t signal).records = t.records := by
    intro t signal
    unfold countSignal
    split <;> rfl
  exact List.foldlRecOn (motive := fun t : Metrics => t.records = m.metrics.records) signals _ rfl
    fun t ht signal _ => (hone t signal).trans ht

/-- Where in the program a call is made does not bear on the rules. -/
theorem sameRules_stack (m : Manager) (stack : List Symbol) :
    SameRules m { m with stack := stack } :=
  ⟨rfl, rfl, rfl, fun _ => rfl, rfl, fun s => by cases s <;> rfl, fun s => by cases s <;> rfl,
    rfl, rfl, rfl⟩

theorem sameRules_countRecord (m : Manager) (r : Record) : SameRules m (m.countRecord r) :=
  ⟨rfl, rfl, rfl, fun _ => rfl, rfl, fun s => by cases s <;> rfl, fun s => by cases s <;> rfl,
    rfl, rfl, rfl⟩

/-- The remote sink may move; the rules do not depend on where it stands. -/
theorem sameRules_withRemote {s : Remote.Sink} (h : m.remote = some s) (s' : Remote.Sink)
    (signals : List Remote.Signal) : SameRules m (m.withRemote s' signals) := by
  refine ⟨rfl, rfl, rfl, fun _ => ?_, rfl, fun s => by cases s <;> rfl,
    fun s => by cases s <;> rfl, rfl, rfl, rfl⟩
  simp [logger, freshLogger, withRemote, h]

/-- The remote sink takes a record. -/
theorem ships_ship (m : Manager) (r : Record) : Ships m [r] (m.ship r) := by
  unfold ship
  cases hremote : m.remote with
  | none =>
      exact ⟨.refl m, fun s hs => absurd (hremote.symm.trans hs) (by simp),
        fun s hs => absurd (hremote.symm.trans hs) (by simp)⟩
  | some s =>
      have hone : s.emitAll ([r].map m.messageOf) = s.emit (m.messageOf r) := by
        simp [Remote.Sink.emitAll]
      refine ⟨sameRules_withRemote hremote _ _, ?_, ?_⟩
      · intro s' hs'
        cases hremote.symm.trans hs'
        rw [hone]
        rfl
      · intro s' hs'
        cases hremote.symm.trans hs'
        rw [hone]
        exact shipped_map _

/-- A record is counted, and then the remote sink takes it. -/
theorem logs_ship (m : Manager) (r : Record) : Logs m [r] ((m.countRecord r).ship r) := by
  have hcount : Ships m [] (m.countRecord r, []) := .quiet (sameRules_countRecord m r) rfl rfl
  have hrecords : ∀ m' : Manager, (m'.ship r).1.metrics.records = m'.metrics.records := by
    intro m'
    unfold ship
    split
    · rfl
    · exact records_withRemote _ _ _
  exact ⟨hcount.trans (ships_ship (m.countRecord r) r), hrecords _⟩

/-- What does not depend on the records in a sink stays when it takes one. -/
theorem map_updateMemory {α : Type} (g : MemorySink → α)
    (hg : ∀ s records, g { s with records := records } = g s) (m : Manager) (id : Nat) (r : Record)
    (id' : Nat) :
    ((m.updateMemory id fun s => { s with records := s.records ++ [r] }).memory[id']?).map g
      = (m.memory[id']?).map g := by
  rw [updateMemory, List.getElem?_modify, Option.map_eq_map, Option.map_map]
  congr 1
  funext s
  rw [Function.comp_apply]
  split
  · exact hg s _
  · rfl

/-- A sink in memory takes a record and keeps its rules. -/
theorem sameRules_updateMemory (m : Manager) (id : Nat) (r : Record) :
    SameRules m (m.updateMemory id fun s => { s with records := s.records ++ [r] }) := by
  refine ⟨rfl, rfl, rfl, fun _ => rfl, rfl, fun s => ?_, fun s => ?_, rfl, rfl, rfl⟩
  · cases s with
    | remote => rfl
    | console => rfl
    | memory id' =>
        have h := map_updateMemory (·.threshold) (fun _ _ => rfl) m id r id'
        rw [threshold, threshold, h]
  · cases s with
    | remote => rfl
    | console => rfl
    | memory id' =>
        have h := map_updateMemory (·.relay) (fun _ _ => rfl) m id r id'
        have hjoin : ∀ found : Option MemorySink, found.bind (·.relay) = (found.map (·.relay)).join := by
          intro found
          cases found <;> rfl
        rw [relay?, relay?, hjoin, hjoin, h]

/-- Another sink takes a record. -/
theorem logs_store {s : Sink} (hs : s ≠ .remote) (m : Manager) (r : Record) :
    Logs m [] (m.store s r) := by
  cases s with
  | remote => exact absurd rfl hs
  | console => exact .quiet (.refl m) rfl rfl rfl
  | memory id => exact .quiet (sameRules_updateMemory m id r) rfl rfl rfl

/-! ### All sinks of a logger -/

/--
Goes through sinks without the remote one. `made` says which record a sink adds
that accepts this one; one that does not accept it adds none.
-/
theorem logs_offerAll (take : Manager → Sink → Traced) (made : Sink → Option Record)
    (sinks : List Sink)
    (htake : ∀ m', SameRules m m' → Attached m' → ∀ s ∈ sinks, m.accepts s r = true →
      Logs m' (made s).toList (take m' s))
    (hmade : ∀ s ∈ sinks, m.accepts s r = false → made s = none) :
    ∀ m', SameRules m m' → Attached m' → Logs m' (sinks.filterMap made) (offerAll take r sinks m')
    := by
  induction sinks with
  | nil => exact fun m' _ _ => .refl m'
  | cons s rest ih =>
      intro m' hrules hatt
      -- the next sink is reached by the same rules, so it makes what `m` says it makes
      have hrest := ih (fun m₁ h₁ h₂ s' hs' => htake m₁ h₁ h₂ s' (List.mem_cons_of_mem s hs'))
        (fun s' hs' => hmade s' (List.mem_cons_of_mem s hs'))
      have hfirst : Logs m' (made s).toList (if m'.accepts s r then take m' s else (m', [])) := by
        rw [hrules.accepts]
        split
        case isTrue hacc => exact htake m' hrules hatt s List.mem_cons_self hacc
        case isFalse hacc =>
          rw [hmade s List.mem_cons_self (by simpa using hacc)]
          exact .refl m'
      have hnext := hrest _ (hrules.trans hfirst.rules) (hfirst.attached hatt)
      have hall := hfirst.trans hnext
      have hsplit : (s :: rest).filterMap made = (made s).toList ++ rest.filterMap made := by
        rw [List.filterMap_cons]
        cases made s <;> rfl
      rw [hsplit]
      exact hall

/-- A record goes to the remote sink first and then to the others. -/
theorem logs_dispatch (take : Record → Manager → Sink → Traced) (made : Sink → Option Record)
    (key : String) (hatt : Attached m) (hremote : ∀ m', take r m' .remote = m'.ship r)
    (hnone : made .remote = none)
    (htake : ∀ m', SameRules m m' → Attached m' → ∀ s, s ≠ .remote → m.accepts s r = true →
      Logs m' (made s).toList (take r m' s))
    (hmade : ∀ s, m.accepts s r = false → made s = none) :
    Logs m (r :: (m.sinksOf key).filterMap made) (m.dispatch take key r) := by
  obtain ⟨rest, hsinks, hrest⟩ := hatt.sinksOf key
  -- the remote sink is first and takes every record
  have hfirst := logs_ship m r
  have hothers := logs_offerAll (take r) made rest
    (fun m' h h' s hs hacc => htake m' h h' s (fun he => hrest (he ▸ hs)) hacc)
    (fun s _ hacc => hmade s hacc) _ hfirst.rules (hfirst.attached hatt)
  have hall := hfirst.trans hothers
  have hacc : (m.countRecord r).accepts .remote r = true :=
    decide_eq_true (show (0 : UInt32) ≤ r.level.rank from UInt32.zero_le)
  have hevents : offerAll (take r) r (.remote :: rest) (m.countRecord r)
      = ((offerAll (take r) r rest ((m.countRecord r).ship r).1).1,
          ((m.countRecord r).ship r).2
            ++ (offerAll (take r) r rest ((m.countRecord r).ship r).1).2) := by
    rw [offerAll, hacc, if_pos rfl, hremote]
  rw [dispatch, hsinks, hevents, List.filterMap_cons, hnone]
  exact hall

/-! ### Calls -/

/-- A call that is not relayed makes its own record. -/
theorem logs_logRelayed (hatt : Attached m) (site : Site) (key : String) (l : Level)
    (message : String) :
    Logs m (m.record? site key l message).toList (m.logRelayed site key l message) := by
  unfold logRelayed
  cases m.record? site key l message with
  | none => exact .refl m
  | some r =>
      have h := logs_dispatch (fun r m s => m.store s r) (fun _ => none) key hatt (fun _ => rfl) rfl
        (fun m' _ _ s hs _ => logs_store hs m' r) (fun _ _ => rfl)
      rwa [List.filterMap_eq_nil_iff.mpr (fun _ _ => rfl)] at h

/-- A sink that relays makes what its relay logs. -/
theorem logs_storeAndRelay {m' : Manager} (hrules : SameRules m m') (hatt : Attached m')
    {s : Sink} (hs : s ≠ .remote) (hacc : m.accepts s r = true) :
    Logs m' (m.relayed? site r s).toList (storeAndRelay site r m' s) := by
  have hstore := logs_store hs m' r
  have hrelay : (m'.store s r).1.relay? s = m.relay? s :=
    (hstore.rules.relay s).trans (hrules.relay s)
  rw [relayed?, hacc, storeAndRelay]
  dsimp only
  rw [hrelay]
  cases m.relay? s with
  | none =>
      rw [Option.bind_none, ite_self]
      exact hstore
  | some relay =>
      cases hmark : isRelayed r.message with
      | true => exact hstore
      | false =>
          have hlog := logs_logRelayed (hstore.attached hatt) site relay.logger relay.level
            (relayMark ++ r.message)
          rw [(hrules.trans hstore.rules).record?] at hlog
          exact hstore.trans hlog

/-- **A call counts and ships exactly the records that it makes.** -/
theorem logs_logAt (hatt : Attached m) (site : Site) (key : String) (l : Level)
    (message : String) :
    Logs m (m.logged site key l message) (m.logAt site key l message) := by
  unfold logAt logged
  cases m.record? site key l message with
  | none => exact .refl m
  | some r =>
      refine logs_dispatch _ _ key hatt (fun m' => ?_) ?_ (fun m' h h' s hs hacc => ?_)
        (fun s hacc => ?_)
      · rfl
      · rw [relayed?]
        split <;> rfl
      · exact logs_storeAndRelay h h' hs hacc
      · rw [relayed?, hacc]
        rfl

end Manager

end Herald
