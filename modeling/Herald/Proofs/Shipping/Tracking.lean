import Herald.Proofs.Shipping.Pipeline

/-!
# From the calls to the bus

The records that pass their loggers' thresholds are what the remote sink is
offered, and what the sink hands over is what gets on the bus. Both hold at every
moment of a run of proper moves, whatever the others do in between.
-/

namespace Herald

/-- A publish over a bus always succeeds. -/
theorem Remote.Carrier.publish_of_bus {c : Remote.Carrier} (h : c.transport = .bus)
    (topic : String) (payload : ByteArray) :
    c.publish topic payload = ({ c with bus := c.bus.publish topic payload }, some .published) := by
  obtain ⟨transport, bus⟩ := c
  subst h
  rfl

namespace Pipeline

open Remote (Action Outcome Signal accepted handed offered)
open Remote.Message (addressed)

variable {topic : String} {capacity : Nat} {format : Format} {hist : History} {p p' : Pipeline}
  {a : Move} {s s' : Remote.Sink} {out : List Signal}

theorem passed_append (format : Format) (hist hist' : History) :
    passed format (hist ++ hist') = passed format hist ++ passed format hist' :=
  List.flatMap_append

theorem passed_snoc (format : Format) (hist : History) (e : Pipeline × Move) :
    passed format (hist ++ [e]) = passed format hist ++ passedIn format e := by
  rw [passed_append, passed, passed, List.flatMap_singleton]

theorem passed_quiet (hist : History) {e : Pipeline × Move} (h : passedIn format e = []) :
    passed format (hist ++ [e]) = passed format hist := by
  rw [passed_snoc, h, List.append_nil]

theorem published_append (hist hist' : History) :
    published (hist ++ hist') = published hist ++ published hist' :=
  List.flatMap_append

theorem published_snoc (hist : History) (e : Pipeline × Move) :
    published (hist ++ [e]) = published hist ++ publishedIn e := by
  rw [published_append, published, published, List.flatMap_singleton]

theorem published_quiet (hist : History) {e : Pipeline × Move} (h : publishedIn e = []) :
    published (hist ++ [e]) = published hist := by
  rw [published_snoc, h, List.append_nil]

/-- The publish that the worker is in, while the bus does not have its message yet. -/
def inTransit (s : Remote.Sink) (outcome : Option Outcome) : List (String × ByteArray) :=
  match outcome with
  | none => (s.worker.message?.map (addressed s.topic)).toList
  | some _ => []

/-- Where the records that passed have got to. `out` is what the sink let be seen. -/
structure Tracks (topic : String) (capacity : Nat) (format : Format) (hist : History)
    (p : Pipeline) (s : Remote.Sink) (out : List Signal) : Prop where
  attached : p.manager.Attached
  clock : p.manager.clock.InRange
  format_eq : p.manager.format = format
  transport : p.carrier.transport = .bus
  numbered : p.carrier.bus.Numbered
  remote : p.manager.remote = some s
  /-- The sink is where a run of it leads. -/
  leads : Remote.Sink.Leads (.ofCapacity topic capacity) out s
  /-- No logging call is half-way. -/
  uncounted : s.uncounted = 0
  /-- The sink was offered exactly the records that passed. -/
  entries : (offered out).map Message.entry = passed format hist
  times : ∀ m ∈ offered out, Decimal.exponentBits m.timestamp ≤ 1087
  /-- The bus has what was handed over, up to the publish that is on its way. -/
  handed_eq : handed out = published hist ++ inTransit s p.outcome
  /-- A publish has an outcome only as long as the worker is in it. -/
  busy : p.outcome.isSome = true → s.worker.message?.isSome = true

theorem tracks_init {names : Registry} {plan : Manager.Plan} {m : Manager} {events : List Event}
    (hbuild : Manager.build names plan = .ok (m, events)) (hon : plan.config.remote.enabled = true)
    (hclock : plan.clock.InRange) (room : Nat) :
    ∃ s out, Tracks plan.config.remote.resolvedTopic plan.config.remote.queueCapacity.toNat
      plan.format [] ⟨m, ⟨.bus, .ofCapacity room⟩, none, []⟩ s out := by
  obtain ⟨hatt, hclk, hfmt, hremote⟩ := Manager.attached_build hbuild hon
  refine ⟨_, [], hatt, ?_, hfmt, rfl, Bus.numbered_ofCapacity room, hremote, .refl _, rfl, rfl,
    ?_, rfl, ?_⟩
  · rw [hclk]
    exact hclock
  · exact fun _ hm => absurd hm List.not_mem_nil
  · exact fun h => absurd h (by simp)

theorem Tracks.silent (h : Tracks topic capacity format hist p s out) :
    ∃ s' out', Tracks topic capacity format hist p s' (out ++ out') :=
  ⟨s, [], by rwa [List.append_nil]⟩

/-- A move of the pipeline that neither the sink nor the bus's part of the worker sees. -/
theorem Tracks.idle (h : Tracks topic capacity format hist p s out) {e : Pipeline × Move}
    (hatt : p'.manager.Attached) (hclock : p'.manager.clock.InRange)
    (hformat : p'.manager.format = p.manager.format)
    (hremote : p'.manager.remote = p.manager.remote)
    (htransport : p'.carrier.transport = p.carrier.transport) (hnum : p'.carrier.bus.Numbered)
    (houtcome : p'.outcome = p.outcome) (hpassed : passedIn format e = [])
    (hpublished : publishedIn e = []) : Tracks topic capacity format (hist ++ [e]) p' s out where
  attached := hatt
  clock := hclock
  format_eq := hformat.trans h.format_eq
  transport := htransport.trans h.transport
  numbered := hnum
  remote := hremote.trans h.remote
  leads := h.leads
  uncounted := h.uncounted
  entries := by rw [passed_quiet hist hpassed, h.entries]
  times := h.times
  handed_eq := by rw [published_quiet hist hpublished, houtcome, h.handed_eq]
  busy := by rw [houtcome]; exact h.busy

/-- A change of the bus alone. -/
theorem Tracks.bus (h : Tracks topic capacity format hist p s out) {bus : Bus}
    (a : Move) (hnum : bus.Numbered) (hpassed : passedIn format (p, a) = [])
    (hpublished : publishedIn (p, a) = []) :
    Tracks topic capacity format (hist ++ [(p, a)])
      { p with carrier := { p.carrier with bus } } s out :=
  h.idle h.attached h.clock rfl rfl rfl hnum rfl hpassed hpublished

/-- What is performed on the manager offers the records that pass in it. -/
theorem Tracks.performs (h : Tracks topic capacity format hist p s out) {rs : List Record}
    {m : Manager} {events : List Event} (hperf : Manager.Performs p.manager rs m events)
    {e : Pipeline × Move} (hpassed : passedIn format e = rs.map (Record.entry format))
    (hpublished : publishedIn e = []) (raising : List Manager.Raising) :
    ∃ s' out', Tracks topic capacity format (hist ++ [e]) { p with manager := m, raising } s'
      (out ++ out') := by
  obtain ⟨s', hremote, hem⟩ := hperf.emitted h.remote h.uncounted
  have htopic : s'.topic = s.topic := by
    obtain ⟨as, hrun⟩ := hem.leads
    exact hrun.settings.1
  refine ⟨s', _, ⟨hperf.attached, ?_, hperf.format.trans h.format_eq, h.transport, h.numbered,
    hremote, h.leads.trans hem.leads, hem.uncounted, ?_, ?_, ?_, ?_⟩⟩
  · change m.clock.InRange
    rw [hperf.clock]
    exact h.clock
  · rw [Remote.offered_append, hem.offered, List.map_append, h.entries, passed_snoc, hpassed,
      List.map_map, ← h.format_eq]
    rfl
  · intro m hm
    rw [Remote.offered_append, hem.offered] at hm
    rcases List.mem_append.mp hm with hm | hm
    · exact h.times m hm
    · obtain ⟨r, -, rfl⟩ := List.mem_map.mp hm
      exact h.clock
  · -- emits do not touch the worker, so a publish that was on its way still is
    have htransit : inTransit s' p.outcome = inTransit s p.outcome := by
      unfold inTransit
      rw [hem.worker, htopic]
    rw [Remote.handed_append, hem.handed, List.append_nil, published_quiet hist hpublished,
      h.handed_eq, htransit]
  · rw [hem.worker]
    exact h.busy

/-- Nothing the sink does by itself offers a record. -/
theorem Tracks.sink_of_handed (h : Tracks topic capacity format hist p s out) {e : Pipeline × Move}
    {a' : Action} {out' : List Signal} (hs : Remote.Sink.Steps s a' s' out') {outcome : Option Outcome}
    (ha : a'.isOffer = false) (hcount : a' ≠ .count) (hpassed : passedIn format e = [])
    (hhanded : handed out ++ handed out' = published (hist ++ [e]) ++ inTransit s' outcome)
    (hbusy : outcome.isSome = true → s'.worker.message?.isSome = true) :
    Tracks topic capacity format (hist ++ [e])
      { p with manager := p.manager.withRemote s' out', outcome := outcome } s' (out ++ out') := by
  have hoffered := Remote.Sink.offered_step hs ha
  refine ⟨h.attached.of_sameRules (Manager.sameRules_withRemote h.remote s' out') rfl, h.clock,
    h.format_eq, h.transport, h.numbered, rfl, h.leads.trans (.step hs.step_eq), ?_, ?_, ?_, ?_,
    hbusy⟩
  · rw [Remote.Sink.uncounted_step hs ha hcount, h.uncounted]
  · rw [Remote.offered_append, hoffered, List.append_nil, passed_quiet hist hpassed, h.entries]
  · rw [Remote.offered_append, hoffered, List.append_nil]
    exact h.times
  · rw [Remote.handed_append]
    exact hhanded

/-- An idle worker has no outcome to wait for. -/
theorem Tracks.outcome_of_idle (h : Tracks topic capacity format hist p s out)
    (hw : s.worker = .idle) : p.outcome = none := by
  cases ho : p.outcome with
  | none => rfl
  | some o =>
      have hbusy := h.busy (by rw [ho]; rfl)
      rw [hw] at hbusy
      cases hbusy

/-- The worker takes a command, or a flush or a close goes on. -/
theorem Tracks.sink (h : Tracks topic capacity format hist p s out) {a' : Action}
    {out' : List Signal} (ha : ownAction a' = true) (hstep : s.step a' = some (s', out')) :
    Tracks topic capacity format (hist ++ [(p, .sink a')])
      { p with manager := p.manager.withRemote s' out' } s' (out ++ out') := by
  have hs := Remote.Sink.steps_of_step_eq hstep
  have hoffer : a'.isOffer = false := by cases a' <;> first | rfl | cases ha
  have hcount : a' ≠ .count := by
    rintro rfl
    cases ha
  have hpublished : published (hist ++ [(p, .sink a')]) = published hist := published_quiet hist rfl
  have htopic : s'.topic = s.topic := hs.settings.1
  by_cases htake : a' = .take
  · subst htake
    obtain ⟨hidle, hhanded⟩ := Remote.Sink.take_step hs
    have hnone := h.outcome_of_idle hidle
    -- no publish is on its way, so the bus has all that was handed over so far
    have hbefore := h.handed_eq
    rw [hnone] at hbefore
    unfold inTransit at hbefore
    rw [hidle, Remote.Worker.message?_idle, Option.map_none, Option.toList_none,
      List.append_nil] at hbefore
    refine h.sink_of_handed hs hoffer hcount rfl ?_ (by rw [hnone]; exact fun h => absurd h (by simp))
    rw [hpublished, hbefore, hnone, hhanded, inTransit]
  · obtain ⟨hworker, hhanded⟩ := Remote.Sink.worker_step hs htake (by
      rintro o rfl
      cases ha)
    refine h.sink_of_handed hs hoffer hcount rfl ?_ (by rw [hworker]; exact h.busy)
    have htransit : inTransit s' p.outcome = inTransit s p.outcome := by
      unfold inTransit
      rw [hworker, htopic]
    rw [hhanded, List.append_nil, hpublished, htransit, h.handed_eq]

/-- The worker counts how its publish ended. -/
theorem Tracks.finish (h : Tracks topic capacity format hist p s out) {o : Outcome}
    {out' : List Signal} (ho : p.outcome = some o) (hstep : s.step (.finish o) = some (s', out')) :
    Tracks topic capacity format (hist ++ [(p, .finish)])
      { p with manager := p.manager.withRemote s' out', outcome := none } s' (out ++ out') := by
  have hs := Remote.Sink.steps_of_step_eq hstep
  refine h.sink_of_handed hs rfl (by simp) rfl ?_ (fun h => absurd h (by simp))
  -- the publish has returned, so the bus has its message already
  have hbefore := h.handed_eq
  rw [ho, inTransit, List.append_nil] at hbefore
  rw [hbefore, published_quiet hist rfl]
  cases hs with
  | finish m o hw => rfl

/-- What a publish puts on the bus is what the worker came with. -/
theorem Tracks.publishedIn_eq (h : Tracks topic capacity format hist p s out) {m : Message}
    (hw : s.worker = .publishing m) : publishedIn (p, .publish) = [addressed s.topic m] := by
  simp only [publishedIn, h.remote]
  rw [hw]
  rfl

/-- The transport puts a message on the bus. -/
theorem Tracks.publish (h : Tracks topic capacity format hist p s out) {m : Message}
    (hw : s.worker = .publishing m) (ho : p.outcome = none) :
    Tracks topic capacity format (hist ++ [(p, .publish)])
      { p with
        carrier := (p.carrier.publish s.topic m.encode).1
        outcome := (p.carrier.publish s.topic m.encode).2 } s out := by
  rw [Remote.Carrier.publish_of_bus h.transport]
  refine ⟨h.attached, h.clock, h.format_eq, h.transport, Bus.numbered_publish h.numbered _ _,
    h.remote, h.leads, h.uncounted, ?_, h.times, ?_, fun _ => by rw [hw]; rfl⟩
  · rw [h.entries, passed_quiet hist rfl]
  · have hbefore := h.handed_eq
    rw [ho] at hbefore
    unfold inTransit at hbefore
    rw [hw] at hbefore
    rw [published_snoc, h.publishedIn_eq hw, hbefore]
    exact (List.append_nil _).symm

/-- **Every proper move keeps track.** -/
theorem tracks_step (id : Nat) (h : Tracks topic capacity format hist p s out)
    (hstep : Step p a p') (ha : Proper topic id a) :
    ∃ s' out', Tracks topic capacity format (hist ++ [(p, a)]) p' s' (out ++ out') := by
  cases hstep with
  | operate site o =>
      exact h.performs (Manager.performs_first h.attached site ha) rfl rfl _
  | @raise r i hr =>
      have hlogs := Manager.logs_raise h.attached r.site r.key r.warning
      have hpassed : passedIn format (p, .raise i)
          = (p.manager.raised (some r)).map (Record.entry format) := by
        rw [← hr]
        rfl
      exact h.performs (hlogs.performs h.attached) hpassed rfl _
  | tick now =>
      have hatt : Manager.Attached { p.manager with clock := now } :=
        ⟨h.attached.there, h.attached.first, h.attached.notRoot⟩
      have htracks : Tracks topic capacity format (hist ++ [(p, .tick now)])
          { p with manager := { p.manager with clock := now } } s out :=
        h.idle hatt ha rfl rfl rfl h.numbered rfl rfl rfl
      exact htracks.silent
  | @sink s₀ s' out' a' hs ha' hstep =>
      cases hs.symm.trans h.remote
      exact ⟨s', out', h.sink ha' hstep⟩
  | @publish s₀ m hs hw ho =>
      cases hs.symm.trans h.remote
      exact (h.publish hw ho).silent
  | @finish s₀ s' out' o hs ho hstep =>
      cases hs.symm.trans h.remote
      exact ⟨s', out', h.finish ho hstep⟩
  | @subscribe bus id' topic' hsub =>
      obtain ⟨rfl, -⟩ := Bus.eq_subscribe hsub
      exact (h.bus (.subscribe topic') (Bus.numbered_subscribe h.numbered topic') rfl rfl).silent
  | @receive bus m id' htake =>
      obtain ⟨rest, rfl⟩ := Bus.eq_update_of_take htake
      refine (h.bus (.receive id') ?_ rfl rfl).silent
      exact Bus.numbered_update h.numbered id' fun _ => rfl
  | drop id' =>
      refine (h.bus (.drop id') ?_ rfl rfl).silent
      exact Bus.numbered_update h.numbered id' fun _ => rfl
  | elsewhere topic' payload =>
      exact (h.bus (.elsewhere topic' payload) (Bus.numbered_publish h.numbered topic' payload)
        rfl rfl).silent

/-- A run of proper moves keeps track. -/
theorem tracks_run {id : Nat} {more : History} {q : Pipeline}
    (h : Tracks topic capacity format hist p s out) (hrun : Run p more q)
    (hproper : ∀ e ∈ more, Proper topic id e.2) :
    ∃ s' out', Tracks topic capacity format (hist ++ more) q s' (out ++ out') := by
  induction hrun with
  | start => exact Tracks.silent (by rwa [List.append_nil])
  | @next more q q' a _ hstep ih =>
      obtain ⟨s₁, out₁, h₁⟩ := ih fun e he => hproper e (List.mem_append_left _ he)
      have ha : Proper topic id a :=
        hproper (q, a) (List.mem_append_right _ (List.mem_singleton.mpr rfl))
      obtain ⟨s₂, out₂, h₂⟩ := tracks_step id h₁ hstep ha
      refine ⟨s₂, out₁ ++ out₂, ?_⟩
      rwa [← List.append_assoc, ← List.append_assoc]

/-- The sink publishes on the topic that it was made with. -/
theorem Tracks.topic_eq (h : Tracks topic capacity format hist p s out) : s.topic = topic := by
  obtain ⟨as, hrun⟩ := h.leads
  exact hrun.settings.1

theorem Tracks.ordered (h : Tracks topic capacity format hist p s out) :
    handed out ++ s.waiting.map (addressed topic) = (accepted out).map (addressed topic) := by
  obtain ⟨as, hrun⟩ := h.leads
  have := Remote.Sink.ordered_run hrun
  unfold Remote.Sink.Ordered at this
  rwa [h.topic_eq] at this

/-- What the bus has is part of what the sink was offered. -/
theorem Tracks.published_sublist (h : Tracks topic capacity format hist p s out) :
    (published hist).Sublist ((offered out).map (addressed topic)) := by
  have hpublished : (published hist).Sublist (handed out) := by
    rw [h.handed_eq]
    exact List.sublist_append_left _ _
  have hhanded : (handed out).Sublist ((accepted out).map (addressed topic)) := by
    rw [← h.ordered]
    exact List.sublist_append_left _ _
  exact (hpublished.trans hhanded).trans ((Remote.accepted_sublist_offered out).map _)

/-- Where nothing was dropped and nothing is on its way, the bus has it all. -/
theorem Tracks.published_eq (h : Tracks topic capacity format hist p s out)
    (hdropped : s.stats.dropped = 0) (hover : p.HandedOver) :
    published hist = (offered out).map (addressed topic) := by
  obtain ⟨hwaiting, htransit⟩ := hover s h.remote
  have hnone : inTransit s p.outcome = [] := by
    unfold inTransit
    cases ho : p.outcome with
    | some o => rfl
    | none =>
        cases hm : s.worker.message? with
        | none => rfl
        | some m =>
            have := htransit (by rw [hm]; rfl)
            rw [ho] at this
            cases this
  have hhanded := h.ordered
  rw [hwaiting, List.map_nil, List.append_nil, h.handed_eq, hnone, List.append_nil] at hhanded
  obtain ⟨as, hrun⟩ := h.leads
  rw [hhanded, Remote.Sink.accepted_eq_offered hrun hdropped]

/-- Nothing gets on the bus before a record passes. -/
theorem Tracks.published_nil (h : Tracks topic capacity format hist p s out)
    (hpassed : passed format hist = []) : published hist = [] := by
  have hoffered : offered out = [] := by
    rw [← h.entries] at hpassed
    exact List.map_eq_nil_iff.mp hpassed
  have hsub := h.published_sublist
  rw [hoffered] at hsub
  exact List.sublist_nil.mp hsub

end Pipeline

end Herald
