import Herald.Proofs.Manager.Course

/-!
# The local side of a manager

Whoever is not the remote sink learns of a manager what is on its `localSide`, and
of a call what is `heard` of its events. Both leave out the times that records and
escalations are told with.

Two managers are `Alike` when their local sides are the same. They may differ in
everything remote: one ships and the other does not, or their sinks have different
room, or one is closed, full or stuck with a transport that does not return. Then the
remote sink is not even offered the same records, and the lists of sinks differ in
length. What carries the proof is that a record offered to the remote sink changes
nothing on the local side and is not heard (`sameOutcome_ship`), so that its turns can
be left out when a record goes through all sinks (`sameOutcome_offerAll`).
-/

namespace Herald

/-! ## Without times -/

/-- A record apart from when it was made. -/
def Record.undated (r : Record) : Record := { r with stamp := ⟨0, "", ""⟩ }

/-- A sink in memory apart from when it received what. -/
def MemorySink.undated (s : MemorySink) : MemorySink :=
  { s with records := s.records.map Record.undated }

/-- An escalation without the time that it was made at, which is told as the clock tells it. -/
def Escalation.undated (c : Clock) : Escalation → Escalation
  | .warning w => .warning { w with timestamp := 0 }
  | .notify text =>
    .notify (String.ofList (text.toList.drop (Manager.notificationText c "").length))

theorem Escalation.target_missedDiagnostic (e : Escalation) :
    e.missedDiagnostic.target = "tidings_core::escalation" := by
  cases e <;> rfl

namespace Manager

theorem undated_notify (c : Clock) (message : String) :
    (Escalation.notify (notificationText c message)).undated c = .notify message := by
  have htext : (notificationText c message).toList
      = (notificationText c "").toList ++ message.toList := by
    simp [notificationText, toString, String.toList_append]
  rw [Escalation.undated, htext, ← String.length_toList, List.drop_left, String.ofList_toList]

/-! ## The local side -/

/-- The sinks but for the remote one. -/
def others (sinks : List Sink) : List Sink := sinks.filter (· ≠ .remote)

theorem others_append (sinks more : List Sink) :
    others (sinks ++ more) = others sinks ++ others more := List.filter_append sinks more

theorem others_cons_remote (sinks : List Sink) : others (.remote :: sinks) = others sinks := rfl

theorem others_cons_of_ne {s : Sink} (hs : s ≠ .remote) (sinks : List Sink) :
    others (s :: sinks) = s :: others sinks := List.filter_cons_of_pos (decide_eq_true hs)

/-- A manager apart from its remote side and from time. -/
structure LocalSide where
  names : Registry
  rootLevel : Level
  subtreeLevel? : String → Option Level
  level : String → Level
  sinks : String → List Sink
  rootSinks : List Sink
  memory : List MemorySink
  accessor : Accessor
  /-- The application that is installed. -/
  current : Option Application
  testMode : TestMode
  locator : Locator
  captureStack : Bool
  stack : List Symbol
  records : Tally
  escalated : Tally
  missed : Tally

/-- What of a manager does not belong to its remote side. -/
def localSide (m : Manager) : LocalSide where
  names := m.names
  rootLevel := m.rootLevel
  subtreeLevel? := m.subtreeLevel?
  level key := (m.logger key).level
  sinks key := others (m.logger key).sinks
  rootSinks := others m.rootSinks
  memory := m.memory.map MemorySink.undated
  accessor := m.accessor
  current := m.slot.current
  testMode := m.testMode
  locator := m.locator
  captureStack := m.captureStack
  stack := m.stack
  records := m.metrics.records
  escalated := m.metrics.escalated
  missed := m.metrics.missed

/-- The two differ in their remote sides at most, and in time. -/
def Alike (m m' : Manager) : Prop := m.localSide = m'.localSide

/-- What is heard of an event away from the remote sink, without the time `c` of the call. -/
def heard? (c : Clock) : Event → Option Event
  | .received id r => some (.received id r.undated)
  | .shipping _ => none
  | .escalated label e => some (.escalated label (e.undated c))
  -- of a missed escalation the text may tell the time
  | .said d => if d.target = "tidings_core::escalation" then none else some (.said d)

/-- What is heard during a call at time `c`. -/
def heard (c : Clock) (events : List Event) : List Event := events.filterMap (heard? c)

theorem heard_nil (c : Clock) : heard c [] = [] := List.filterMap_nil

theorem heard_append (c : Clock) (events more : List Event) :
    heard c (events ++ more) = heard c events ++ heard c more := List.filterMap_append

theorem heard_present (c : Clock) (r : Record) :
    heard c [.said (Console.present r)] = [.said (Console.present r)] := by
  have htarget : (Console.present r).target ≠ "tidings_core::escalation" := by
    change "tidings_core::sink::tracing_sink" ≠ "tidings_core::escalation"
    decide
  have hheard : heard? c (.said (Console.present r)) = some (.said (Console.present r)) := by
    rw [heard?, if_neg htarget]
  rw [heard, List.filterMap_cons_some hheard, List.filterMap_nil]

theorem heard_missed (c : Clock) (e : Escalation) :
    heard c [.said e.missedDiagnostic] = [] := by
  have hheard : heard? c (.said e.missedDiagnostic) = none := by
    rw [heard?, if_pos e.target_missedDiagnostic]
  rw [heard, List.filterMap_cons_none hheard, List.filterMap_nil]

section Alike

variable {m m' : Manager}

theorem Alike.localSide_eq (h : Alike m m') : m.localSide = m'.localSide := h

theorem Alike.subtreeLevel? (h : Alike m m') : m.subtreeLevel? = m'.subtreeLevel? :=
  congrArg LocalSide.subtreeLevel? h

theorem Alike.level (h : Alike m m') (key : String) : (m.logger key).level = (m'.logger key).level :=
  congrFun (congrArg LocalSide.level h) key

theorem Alike.others_sinksOf (h : Alike m m') (key : String) :
    others (m.sinksOf key) = others (m'.sinksOf key) := by
  have hown : others (m.logger key).sinks = others (m'.logger key).sinks :=
    congrFun (congrArg LocalSide.sinks h) key
  have hroot : others m.rootSinks = others m'.rootSinks := congrArg LocalSide.rootSinks h
  rw [sinksOf, sinksOf, others_append, others_append, hown, hroot]

theorem Alike.effectiveLevel (h : Alike m m') (key : String) :
    m.effectiveLevel key = m'.effectiveLevel key := by
  have hroot : m.rootLevel = m'.rootLevel := congrArg LocalSide.rootLevel h
  rw [effectiveLevel_eq, effectiveLevel_eq, h.level, inheritedLevel, inheritedLevel,
    h.subtreeLevel?, hroot]

/-- What a sink in memory does with a record does not depend on what it has. -/
theorem Alike.map_memory {α : Type} (g : MemorySink → α) (hg : ∀ s, g s.undated = g s)
    (h : Alike m m') (id : Nat) : (m.memory[id]?).map g = (m'.memory[id]?).map g := by
  have hmemory : (m.memory.map MemorySink.undated)[id]? = (m'.memory.map MemorySink.undated)[id]? :=
    congrArg (·[id]?) (congrArg LocalSide.memory h)
  have hundated := congrArg (Option.map g) hmemory
  simpa only [List.getElem?_map, Option.map_map, Function.comp_def, hg] using hundated

theorem Alike.threshold (h : Alike m m') (s : Sink) : m.threshold s = m'.threshold s := by
  cases s with
  | memory id => rw [Manager.threshold, Manager.threshold, h.map_memory _ fun _ => rfl]
  | _ => rfl

theorem Alike.relay? (h : Alike m m') (s : Sink) : m.relay? s = m'.relay? s := by
  cases s with
  | memory id =>
      have hjoin : ∀ found : Option MemorySink,
          found.bind (·.relay) = (found.map (·.relay)).join := by
        intro found
        cases found <;> rfl
      rw [Manager.relay?, Manager.relay?, hjoin, hjoin, h.map_memory _ fun _ => rfl]
  | _ => rfl

theorem Alike.accepts (h : Alike m m') {r r' : Record} (hr : r.undated = r'.undated) (s : Sink) :
    m.accepts s r = m'.accepts s r' := by
  have hlevel : r.undated.level = r'.undated.level := congrArg Record.level hr
  rw [Manager.accepts, Manager.accepts, h.threshold, Record.passes, Record.passes]
  exact congrArg (fun l : Level => decide (m'.threshold s ≤ l)) hlevel

theorem Alike.record? (h : Alike m m') (site : Site) (key : String) (l : Level)
    (message : String) :
    (m.record? site key l message).map Record.undated
      = (m'.record? site key l message).map Record.undated := by
  have hnames : m.names = m'.names := congrArg LocalSide.names h
  rw [record?_eq, record?_eq, isEnabledFor, isEnabledFor, h.effectiveLevel, hnames]
  split <;> rfl

end Alike

/-! ### Managers as they are built -/

/-- A plan apart from what concerns the remote side, and from the time. -/
def Plan.withoutRemote (p : Plan) : Plan :=
  { p with
    config := { p.config with remote := {} }
    hasTransport := false
    format := Format.message
    clock := ⟨0, "", ""⟩ }

/-- What is built has the configured level of the root. -/
theorem exists_assemble_of_build {names : Registry} {p : Plan} {m : Manager} {events : List Event}
    (h : build names p = .ok (m, events)) :
    ∃ root remote, p.config.root names = .ok root ∧ m = assemble names p root remote := by
  obtain ⟨root, hready, hbuilt⟩ := ((build_iff names p).1 _).mp h
  exact ⟨root, p.sink?, Config.root_of_parse hready.valid.parsed, (Prod.mk.inj hbuilt).1⟩

theorem localSide_assemble (names : Registry) (p : Plan) (root : Level)
    (remote : Option Remote.Sink) :
    (assemble names p root remote).localSide
      = (assemble names p.withoutRemote root none).localSide := by
  cases remote <;> rfl

/-- **Plans that differ only in what concerns the remote side build managers that are alike.** -/
theorem alike_build {names : Registry} {p p' : Plan} {m m' : Manager} {events events' : List Event}
    (h : build names p = .ok (m, events)) (h' : build names p' = .ok (m', events'))
    (hp : p.withoutRemote = p'.withoutRemote) : Alike m m' := by
  obtain ⟨root, remote, hroot, rfl⟩ := exists_assemble_of_build h
  obtain ⟨root', remote', hroot', rfl⟩ := exists_assemble_of_build h'
  -- what is left out of a plan does not bear on the level of its root
  have htext : p.withoutRemote.config.rootLevel = p'.withoutRemote.config.rootLevel := by
    rw [hp]
  have hlevel : p.config.root names = p'.config.root names := by
    unfold Config.root
    rw [show p.config.rootLevel = p'.config.rootLevel from htext]
  have hsame : root = root' := Except.ok.inj (hroot.symm.trans (hlevel.trans hroot'))
  rw [Alike, localSide_assemble names p root remote, localSide_assemble names p' root' remote',
    hp, hsame]

/-! ## What becomes of a record -/

/-- Two outcomes that cannot be told apart; they are those of calls at times `c` and `c'`. -/
structure SameOutcome (c c' : Clock) (t t' : Traced) : Prop where
  alike : Alike t.1 t'.1
  heard : heard c t.2 = heard c' t'.2

section

variable {c c' c'' : Clock} {m m' : Manager} {t t' t'' : Traced} {r r' : Record}

theorem SameOutcome.symm (h : SameOutcome c c' t t') : SameOutcome c' c t' t :=
  ⟨h.alike.symm, h.heard.symm⟩

theorem SameOutcome.trans (h : SameOutcome c c' t t') (h' : SameOutcome c' c'' t' t'') :
    SameOutcome c c'' t t'' :=
  ⟨h.alike.trans h'.alike, h.heard.trans h'.heard⟩

theorem SameOutcome.quiet (h : Alike m m') : SameOutcome c c' (m, []) (m', []) :=
  ⟨h, (heard_nil c).trans (heard_nil c').symm⟩

theorem SameOutcome.andThen {events events' : List Event}
    (h : SameOutcome c c' (m, events) (m', events')) (h' : SameOutcome c c' t t') :
    SameOutcome c c' (t.1, events ++ t.2) (t'.1, events' ++ t'.2) where
  alike := h'.alike
  heard := by
    rw [heard_append, heard_append, show Manager.heard c events = _ from h.heard, h'.heard]

/-- Something that is not noticed on the left comes first there. -/
theorem SameOutcome.after {events : List Event} (h : SameOutcome c c (m', events) (m, []))
    (h' : SameOutcome c c' t t') : SameOutcome c c' (t.1, events ++ t.2) t' where
  alike := h'.alike
  heard := by
    rw [heard_append, show Manager.heard c events = [] from h.heard, List.nil_append, h'.heard]

/-! ### One sink -/

/-- The remote sink's signals have counters of their own. -/
theorem local_foldl_countSignal (signals : List Remote.Signal) (t : Metrics) :
    (signals.foldl countSignal t).records = t.records
      ∧ (signals.foldl countSignal t).escalated = t.escalated
      ∧ (signals.foldl countSignal t).missed = t.missed := by
  induction signals generalizing t with
  | nil => exact ⟨rfl, rfl, rfl⟩
  | cons signal signals ih =>
      obtain ⟨hr, he, hm⟩ := ih (countSignal t signal)
      rw [List.foldl_cons, hr, he, hm]
      cases signal with
      | finished o => cases o <;> exact ⟨rfl, rfl, rfl⟩
      | _ => exact ⟨rfl, rfl, rfl⟩

theorem alike_withRemote {s : Remote.Sink} (h : m.remote = some s) (s' : Remote.Sink)
    (signals : List Remote.Signal) : Alike (m.withRemote s' signals) m := by
  have hlogger : (m.withRemote s' signals).logger = m.logger := by
    funext key
    exact (sameRules_withRemote h s' signals).logger key
  obtain ⟨hr, he, hm⟩ := local_foldl_countSignal signals m.metrics
  unfold Alike localSide
  rw [hlogger, ← hr, ← he, ← hm]
  rfl

/-- So the local side stays while the remote sink goes on. -/
theorem alike_drift (m : Manager) (as : List Remote.Action) : Alike (m.drift as) m :=
  drift_preserves (P := fun q => Alike q m) rfl
    (fun h hs _ => (alike_withRemote hs _ _).trans h) as

/-- **A record offered to the remote sink changes nothing here and is not heard.** -/
theorem sameOutcome_ship (c : Clock) (m : Manager) (r : Record) :
    SameOutcome c c (m.ship r) (m, []) := by
  unfold ship
  cases hremote : m.remote with
  | none => exact .quiet rfl
  | some s =>
      refine ⟨alike_withRemote hremote _ _, ?_⟩
      dsimp only
      rw [heard, List.filterMap_map]
      exact List.filterMap_eq_nil_iff.mpr fun _ _ => rfl

/-- What a sink in memory has without times is what it had and the new record without its time. -/
theorem localSide_updateMemory (m : Manager) (id : Nat) (r : Record) :
    (m.updateMemory id fun s => { s with records := s.records ++ [r] }).localSide
      = { m.localSide with
          memory := m.localSide.memory.modify id fun s =>
            { s with records := s.records ++ [r.undated] } } := by
  have hmemory : (m.memory.modify id fun s => { s with records := s.records ++ [r] }).map
        MemorySink.undated
      = (m.memory.map MemorySink.undated).modify id fun s =>
          { s with records := s.records ++ [r.undated] } := by
    refine List.ext_getElem? fun i => ?_
    rw [List.getElem?_map, List.getElem?_modify, List.getElem?_modify, List.getElem?_map]
    cases m.memory[i]? with
    | none => rfl
    | some s => by_cases hi : id = i <;> simp [hi, MemorySink.undated]
  exact congrArg (fun memory => { m.localSide with memory }) hmemory

theorem sameOutcome_store (h : Alike m m') (hr : r.undated = r'.undated) {s : Sink}
    (hs : s ≠ .remote) : SameOutcome c c' (m.store s r) (m'.store s r') := by
  cases s with
  | remote => exact absurd rfl hs
  | console =>
      have hshown : Console.present r.undated = Console.present r'.undated :=
        congrArg Console.present hr
      refine ⟨h, ?_⟩
      rw [store, store, heard_present, heard_present]
      exact congrArg (fun d => [Event.said d]) hshown
  | memory id =>
      refine ⟨?_, ?_⟩
      · rw [Alike, store, store, localSide_updateMemory, localSide_updateMemory, hr,
          h.localSide_eq]
      · exact congrArg (fun r => [Event.received id r]) hr

/-! ### All sinks of a logger -/

/-- A way for sinks to take a record in which the remote sink's part is not noticed. -/
structure Isolated (take : Record → Manager → Sink → Traced) : Prop where
  remote : ∀ (c : Clock) (r : Record) (m : Manager), SameOutcome c c (take r m .remote) (m, [])
  others : ∀ {c c' : Clock} {r r' : Record} {m m' : Manager} {s : Sink}, Alike m m' →
    r.undated = r'.undated → s ≠ .remote → SameOutcome c c' (take r m s) (take r' m' s)

theorem isolated_store : Isolated fun r m s => m.store s r where
  remote c r m := sameOutcome_ship c m r
  others h hr hs := sameOutcome_store h hr hs

variable {take : Record → Manager → Sink → Traced}

/--
Goes through the same sinks, on the right without the remote one. On the left its
turns are not noticed.
-/
theorem sameOutcome_offerAll (htake : Isolated take) (hr : r.undated = r'.undated)
    (sinks : List Sink) (h : Alike m m') :
    SameOutcome c c' (offerAll (take r) r sinks m) (offerAll (take r') r' (others sinks) m') := by
  induction sinks generalizing m m' with
  | nil => exact .quiet h
  | cons s rest ih =>
      by_cases hs : s = .remote
      · -- only the left takes a turn, and it may be refused by a threshold there
        subst hs
        rw [others_cons_remote, offerAll]
        have hfirst : SameOutcome c c
            (if m.accepts .remote r then take r m .remote else (m, [])) (m, []) := by
          split
          case isTrue _ => exact htake.remote c r m
          case isFalse _ => exact .quiet rfl
        exact hfirst.after (ih (hfirst.alike.trans h))
      · rw [others_cons_of_ne hs, offerAll, offerAll]
        have hfirst : SameOutcome c c' (if m.accepts s r then take r m s else (m, []))
            (if m'.accepts s r' then take r' m' s else (m', [])) := by
          rw [h.accepts hr]
          split
          case isTrue _ => exact htake.others h hr hs
          case isFalse _ => exact .quiet h
        exact hfirst.andThen (ih hfirst.alike)

theorem localSide_countRecord (m : Manager) (r : Record) :
    (m.countRecord r).localSide
      = { m.localSide with records := m.localSide.records.bump r.undated.levelName } := rfl

/-- A record goes to all sinks of a logger, which are the same but for the remote one. -/
theorem sameOutcome_dispatch (htake : Isolated take) (hr : r.undated = r'.undated)
    (h : Alike m m') (key : String) :
    SameOutcome c c' (m.dispatch take key r) (m'.dispatch take key r') := by
  have hname : r.undated.levelName = r'.undated.levelName := congrArg Record.levelName hr
  have hcount : Alike (m.countRecord r) (m'.countRecord r') := by
    rw [Alike, localSide_countRecord, localSide_countRecord, hname, h.localSide_eq]
  -- each is compared with going through the sinks of both without the remote one
  have hleft : SameOutcome c c' (m.dispatch take key r)
      (offerAll (take r') r' (others (m.sinksOf key)) (m'.countRecord r')) :=
    sameOutcome_offerAll htake hr _ hcount
  have hright : SameOutcome c' c' (m'.dispatch take key r')
      (offerAll (take r') r' (others (m'.sinksOf key)) (m'.countRecord r')) :=
    sameOutcome_offerAll htake rfl _ rfl
  rw [← h.others_sinksOf key] at hright
  exact hleft.trans hright.symm

/-! ### Calls -/

/-- Two calls make the same record or none. -/
theorem sameOutcome_made (htake : Isolated take) (h : Alike m m') (key : String)
    (made made' : Option Record) :
    made.map Record.undated = made'.map Record.undated →
    SameOutcome c c'
      (match made with | some r => m.dispatch take key r | none => (m, []))
      (match made' with | some r => m'.dispatch take key r | none => (m', [])) := by
  intro hmade
  cases made with
  | none =>
      cases made' with
      | none => exact .quiet h
      | some r' => exact absurd hmade (by simp)
  | some r =>
      cases made' with
      | none => exact absurd hmade (by simp)
      | some r' => exact sameOutcome_dispatch htake (Option.some.inj hmade) h key

theorem sameOutcome_logRelayed (h : Alike m m') (site : Site) (key : String) (l : Level)
    (message : String) :
    SameOutcome c c' (m.logRelayed site key l message) (m'.logRelayed site key l message) :=
  sameOutcome_made isolated_store h key _ _ (h.record? site key l message)

theorem isolated_storeAndRelay (site : Site) : Isolated (storeAndRelay site) where
  remote c r m := sameOutcome_ship c m r
  others := by
    intro c c' r r' m m' s h hr hs
    have hstore : SameOutcome c c' (m.store s r) (m'.store s r') := sameOutcome_store h hr hs
    have hmessage : r.undated.message = r'.undated.message := congrArg Record.message hr
    have hmessage : r.message = r'.message := hmessage
    rw [storeAndRelay, storeAndRelay, hmessage]
    dsimp only
    -- a sink that logs on does so on both sides, and with the same message
    rw [hstore.alike.relay? s]
    cases (m'.store s r').1.relay? s with
    | none => exact hstore
    | some relay =>
        dsimp only
        split
        · exact hstore
        · exact hstore.andThen
            (sameOutcome_logRelayed hstore.alike site relay.logger relay.level _)

theorem sameOutcome_logAt (h : Alike m m') (site : Site) (key : String) (l : Level)
    (message : String) :
    SameOutcome c c' (m.logAt site key l message) (m'.logAt site key l message) :=
  sameOutcome_made (isolated_storeAndRelay site) h key _ _ (h.record? site key l message)

/-! ### Escalations -/

/-- Two calls whose outcomes cannot be told apart and that both come back or both do not. -/
structure SameCall (c c' : Clock) (t t' : Manager × List Event × Completion) : Prop where
  outcome : SameOutcome c c' (t.1, t.2.1) (t'.1, t'.2.1)
  ends : t.2.2 = .done ↔ t'.2.2 = .done

theorem SameCall.quiet (h : Alike m m') : SameCall c c' (m, [], .done) (m', [], .done) :=
  ⟨.quiet h, Iff.rfl⟩

/-- Both find the same application, and it is given the same. -/
theorem sameCall_escalate (h : Alike m m') {e e' : Escalation} (hkind : e.kind = e'.kind)
    (he : e.undated c = e'.undated c') : SameCall c c' (m.escalate e) (m'.escalate e') := by
  have hfind : m.accessor.find m.slot = m'.accessor.find m'.slot := by
    have haccessor : m.accessor = m'.accessor := congrArg LocalSide.accessor h
    have hcurrent : m.slot.current = m'.slot.current := congrArg LocalSide.current h
    rw [haccessor]
    cases m'.accessor with
    | slot => exact hcurrent
    | nowhere => rfl
  unfold escalate Escalation.deliver
  rw [hfind]
  cases m'.accessor.find m'.slot with
  | none =>
      refine ⟨⟨?_, ?_⟩, Iff.rfl⟩
      · have hside := congrArg (fun side : LocalSide =>
          { side with missed := side.missed.bump e.kind }) h
        rw [hkind] at hside ⊢
        exact hside
      · rw [heard_missed, heard_missed]
  | some a =>
      cases a with
      | panicking => exact ⟨.quiet h, by simp⟩
      | recording label =>
          refine ⟨⟨?_, ?_⟩, Iff.rfl⟩
          · have hside := congrArg (fun side : LocalSide =>
              { side with escalated := side.escalated.bump e.kind }) h
            rw [hkind] at hside ⊢
            exact hside
          · exact congrArg (fun e => [Event.escalated label e]) he

theorem sameCall_notify (h : Alike m m') (site : Site) (key message : String) :
    SameCall m.clock m'.clock (m.notify site key message) (m'.notify site key message) := by
  have hlog : SameOutcome m.clock m'.clock (m.logAt site key Level.notify message)
      (m'.logAt site key Level.notify message) := sameOutcome_logAt h site key _ message
  have hclock := (sameRules_logAt m site key Level.notify message).clock
  have hclock' := (sameRules_logAt m' site key Level.notify message).clock
  -- each text tells the time of its own call, which `undated` takes off again
  unfold notify
  generalize m.logAt site key Level.notify message = t at hlog hclock ⊢
  generalize m'.logAt site key Level.notify message = t' at hlog hclock' ⊢
  obtain ⟨m₁, logged⟩ := t
  obtain ⟨m₁', logged'⟩ := t'
  have htest : m₁.testMode = m₁'.testMode := congrArg LocalSide.testMode hlog.alike
  dsimp only at hclock hclock' ⊢
  rw [htest, hclock, hclock']
  split
  · exact ⟨hlog, Iff.rfl⟩
  · have htext : (Escalation.notify (notificationText m.clock message)).undated m.clock
        = (Escalation.notify (notificationText m'.clock message)).undated m'.clock :=
      (undated_notify m.clock message).trans (undated_notify m'.clock message).symm
    have hkind : (Escalation.notify (notificationText m.clock message)).kind
        = (Escalation.notify (notificationText m'.clock message)).kind := rfl
    have hshown := sameCall_escalate hlog.alike hkind htext
    exact ⟨hlog.andThen hshown.outcome, hshown.ends⟩

theorem Alike.undated_warningOf (h : Alike m m') (key text : String) :
    (Escalation.warning (m.warningOf key text)).undated c
      = (Escalation.warning (m'.warningOf key text)).undated c' := by
  have hlocator : m.locator = m'.locator := congrArg LocalSide.locator h
  have hcapture : m.captureStack = m'.captureStack := congrArg LocalSide.captureStack h
  have hstack : m.stack = m'.stack := congrArg LocalSide.stack h
  rw [Escalation.undated, Escalation.undated, warningOf_eq, warningOf_eq, hlocator, hcapture, hstack]

/-- Warnings are alike that have the same text and say the same apart from the time. -/
theorem Alike.rel_warning? (h : Alike m m') (c c' : Clock) (key : String) (text : Option String) :
    Option.Rel (fun w w' => w.text = w'.text
        ∧ (Escalation.warning w).undated c = (Escalation.warning w').undated c')
      (m.warning? key text) (m'.warning? key text) := by
  have htest : m.testMode = m'.testMode := congrArg LocalSide.testMode h
  rw [warning?, warning?, htest]
  split
  · exact .none
  · cases text with
    | none => exact .none
    | some text => exact .some ⟨rfl, h.undated_warningOf key text⟩

theorem sameCall_raise (h : Alike m m') (site : Site) (key : String) {w w' : Warning}
    (htext : w.text = w'.text)
    (hw : (Escalation.warning w).undated c = (Escalation.warning w').undated c') :
    SameCall c c' (m.raise site key w) (m'.raise site key w') := by
  have hlog : SameOutcome c c' (m.logAt site key Level.warning w.text)
      (m'.logAt site key Level.warning w'.text) :=
    htext ▸ sameOutcome_logAt h site key Level.warning w.text
  have hkind : (Escalation.warning w).kind = (Escalation.warning w').kind := rfl
  have hwarned := sameCall_escalate hlog.alike hkind hw
  exact ⟨hlog.andThen hwarned.outcome, hwarned.ends⟩

/-- What the remote sinks do meanwhile need not be the same. -/
theorem sameCall_network (h : Alike m m') (site : Site) (key message : String)
    (warning : Option String) (as as' : List Remote.Action) :
    SameCall c c' (m.network site key message warning as)
      (m'.network site key message warning as') := by
  have hlog : SameOutcome c c' (m.logAt site key Level.network message)
      (m'.logAt site key Level.network message) := sameOutcome_logAt h site key _ message
  unfold network
  generalize m.logAt site key Level.network message = t at hlog ⊢
  generalize m'.logAt site key Level.network message = t' at hlog ⊢
  obtain ⟨m₁, logged⟩ := t
  obtain ⟨m₁', logged'⟩ := t'
  have hrel := hlog.alike.rel_warning? c c' key warning
  dsimp only
  generalize m₁.warning? key warning = w? at hrel ⊢
  generalize m₁'.warning? key warning = w'? at hrel ⊢
  cases hrel with
  | none => exact ⟨hlog, Iff.rfl⟩
  | some hwarnings =>
      have hdrift : Alike (m₁.drift as) (m₁'.drift as') :=
        ((alike_drift m₁ as).trans hlog.alike).trans (alike_drift m₁' as').symm
      have hraise := sameCall_raise hdrift site key hwarnings.1 hwarnings.2
      exact ⟨hlog.andThen hraise.outcome, hraise.ends⟩

/-! ### Operations -/

theorem localSide_getLogger (m : Manager) (name : String) :
    (m.getLogger name).1.localSide = m.localSide := by
  have hlogger : (m.getLogger name).1.logger = m.logger :=
    funext (sameRules_getLogger m name).logger
  unfold localSide
  rw [hlogger]
  rfl

theorem localSide_setLoggerLevel (m : Manager) (key : String) (l : Level) :
    (m.setLoggerLevel key l).localSide
      = { m.localSide with
          level := fun key' => if key = key' then l else m.localSide.level key' } := by
  have hlogger := funext (logger_setLoggerLevel m key l)
  unfold localSide
  rw [hlogger]
  rfl

theorem localSide_addSink (m : Manager) (key : String) (s : Sink) :
    (m.addSink key s).localSide
      = { m.localSide with
          sinks := fun key' =>
            m.localSide.sinks key' ++ others (if key = key' then [s] else []) } := by
  have hlogger := funext (logger_addSink m key s)
  unfold localSide
  rw [hlogger]
  simp only [others_append]
  rfl

theorem localSide_setLevel (m : Manager) (name : String) (l : Level) :
    (m.setLevel name l).localSide
      = { m.localSide with
          subtreeLevel? := fun p =>
            if name = p then (if l = Level.notset then none else some l)
            else m.localSide.subtreeLevel? p } := by
  have hlevel := funext (subtreeLevel?_setLevel m name l)
  unfold localSide
  rw [hlevel]
  rfl

theorem localSide_clearLevel (m : Manager) (name : String) :
    (m.clearLevel name).localSide
      = { m.localSide with
          subtreeLevel? := fun p =>
            if name = p then none else m.localSide.subtreeLevel? p } := by
  have hlevel := funext (subtreeLevel?_clearLevel m name)
  unfold localSide
  rw [hlevel]
  rfl

theorem localSide_addRootSink (m : Manager) (s : Sink) :
    (m.addRootSink s).localSide
      = { m.localSide with rootSinks := m.localSide.rootSinks ++ others [s] } := by
  unfold localSide
  rw [addRootSink, others_append]
  rfl

theorem localSide_install (m : Manager) (a : Application) :
    { m with slot := m.slot.install a }.localSide = { m.localSide with current := some a } := by
  cases a <;> rfl

theorem localSide_setRootLevel (m : Manager) (l : Level) :
    (m.setRootLevel l).localSide = { m.localSide with rootLevel := l } := rfl

theorem localSide_clear (m : Manager) :
    { m with slot := m.slot.clear }.localSide = { m.localSide with current := none } := rfl

theorem Alike.setLoggerLevel (h : Alike m m') (key : String) (l : Level) :
    Alike (m.setLoggerLevel key l) (m'.setLoggerLevel key l) := by
  rw [Alike, localSide_setLoggerLevel, localSide_setLoggerLevel, h.localSide_eq]

theorem Alike.addSink (h : Alike m m') (key : String) (s : Sink) :
    Alike (m.addSink key s) (m'.addSink key s) := by
  rw [Alike, localSide_addSink, localSide_addSink, h.localSide_eq]

/-- **The same operation on managers that are alike does the same on the local side.** -/
theorem sameCall_perform (h : Alike m m') (site : Site) (o : Operation)
    (as as' : List Remote.Action) :
    SameCall m.clock m'.clock (m.perform site o as) (m'.perform site o as') := by
  have hget : ∀ name, Alike (m.getLogger name).1 (m'.getLogger name).1 := by
    intro name
    rw [Alike, localSide_getLogger, localSide_getLogger, h.localSide_eq]
  cases o with
  | getLogger name => exact .quiet (hget name)
  | log name l message =>
      rw [perform_log, perform_log]
      exact ⟨sameOutcome_logAt (hget name) site (loggerName name) l message, Iff.rfl⟩
  | notify name message =>
      rw [perform_notify, perform_notify]
      exact sameCall_notify (hget name) site (loggerName name) message
  | network name message warning =>
      rw [perform_network, perform_network]
      exact sameCall_network (hget name) site (loggerName name) message warning as as'
  | setLoggerLevel name l =>
      rw [perform_setLoggerLevel, perform_setLoggerLevel]
      exact .quiet ((hget name).setLoggerLevel (loggerName name) l)
  | setLevel name l =>
      refine .quiet ?_
      rw [Alike, localSide_setLevel, localSide_setLevel, h.localSide_eq]
  | clearLevel name =>
      refine .quiet ?_
      rw [Alike, localSide_clearLevel, localSide_clearLevel, h.localSide_eq]
  | setRootLevel l =>
      refine .quiet ?_
      rw [Alike, localSide_setRootLevel, localSide_setRootLevel, h.localSide_eq]
  | attach place s =>
      cases place with
      | none =>
          refine .quiet ?_
          rw [Alike, localSide_addRootSink, localSide_addRootSink, h.localSide_eq]
      | some name =>
          rw [perform_attach, perform_attach]
          exact .quiet ((hget name).addSink (loggerName name) s)
  | install a =>
      refine .quiet ?_
      rw [Alike, localSide_install, localSide_install, h.localSide_eq]
  | clear =>
      refine .quiet ?_
      rw [Alike, localSide_clear, localSide_clear, h.localSide_eq]

end

end Manager

end Herald
