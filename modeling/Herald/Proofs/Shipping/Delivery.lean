import Herald.Proofs.Shipping.Tracking
import Herald.Proofs.Wire.Time

/-!
# End to end

Every message that a subscription gets can be decoded, and says of its record
what the record said: who logged it, at which level, and how it reads. The records
come in the order in which they passed their loggers' thresholds, and each at most
once. Where the queue never dropped one, everything queued has reached the bus and
the subscription always had room, they are all there.
-/

namespace Herald

/-- What is published of a message can be decoded, and says the same about the record. -/
theorem Message.exists_decode_encode {m : Message} (h : Decimal.exponentBits m.timestamp ≤ 1087) :
    ∃ m', Message.decode m.encode = .ok m' ∧ m'.entry = m.entry := by
  obtain ⟨y, hy⟩ := Wire.exists_readsBack h
  exact ⟨{ m with timestamp := y }, decode_encode (Wire.startsValue_writeTime h) hy, rfl⟩

namespace Pipeline

open Remote (handed offered)
open Remote.Message (addressed)

variable {topic : String} {capacity : Nat} {format : Format} {id : Nat} {hist hist' : History}
  {p p' : Pipeline} {a : Move} {s : Remote.Sink} {out : List Remote.Signal} {sub : Subscriber}

/-! ## From the bus to a subscription -/

theorem received_snoc (id : Nat) (hist : History) (e : Pipeline × Move) :
    received id (hist ++ [e]) = received id hist ++ receivedIn id e := by
  simp [received]

theorem received_quiet (hist : History) {e : Pipeline × Move} (h : receivedIn id e = []) :
    received id (hist ++ [e]) = received id hist := by
  rw [received_snoc, h, List.append_nil]

/-- A message of the bus, in the way the sink hands it over. -/
def pair (m : BusMessage) : String × ByteArray := (m.topic, m.payload)

/-- Where the messages of a subscription come from, counted from when it was made. -/
structure Follows (topic : String) (id : Nat) (hist : History) (p : Pipeline) (sub : Subscriber) :
    Prop where
  found : p.carrier.bus.find? id = some sub
  topic_eq : sub.topic = topic
  /-- What it got is part of what the bus got from the manager. -/
  got : ((received id hist ++ sub.waiting).map pair).Sublist (published hist)
  /-- A subscription that never was full got it all. -/
  all : NeverFull id hist → (received id hist ++ sub.waiting).map pair = published hist

theorem waiting_of_find? (h : p.carrier.bus.find? id = some sub) :
    p.waiting id = sub.waiting := by
  rw [waiting, h]
  rfl

theorem NeverFull.init {e : Pipeline × Move} (h : NeverFull id (hist ++ [e])) :
    NeverFull id hist :=
  fun p hp => h p (List.mem_append_left _ hp)

/-- A new subscription. -/
theorem follows_init (hnum : p.carrier.bus.Numbered) (hstep : Step p (.subscribe topic) p') :
    ∃ sub, Follows topic p.carrier.bus.nextId [] p' sub := by
  cases hstep with
  | @subscribe bus id topic hsub =>
      obtain ⟨rfl, -⟩ := Bus.eq_subscribe hsub
      exact ⟨_, Bus.find?_subscribe hnum topic, rfl, .slnil, fun _ => rfl⟩

/-- A move in which the subscription is left as it is. -/
theorem Follows.idle (h : Follows topic id hist p sub)
    {e : Pipeline × Move} (hfound : p'.carrier.bus.find? id = some sub)
    (hpublished : publishedIn e = []) (hreceived : receivedIn id e = []) :
    Follows topic id (hist ++ [e]) p' sub where
  found := hfound
  topic_eq := h.topic_eq
  got := by
    rw [received_quiet hist hreceived, published_quiet hist hpublished]
    exact h.got
  all hroom := by
    rw [received_quiet hist hreceived, published_quiet hist hpublished]
    exact h.all hroom.init

/-- What is received has waited. -/
theorem Follows.receive (h : Follows topic id hist p sub) {bus : Bus} {m : BusMessage}
    (ht : p.carrier.bus.take? id = some (m, bus)) :
    ∃ sub', Follows topic id (hist ++ [(p, .receive id)])
      { p with carrier := { p.carrier with bus } } sub' := by
  obtain ⟨rest, hwaiting, hfound⟩ := Bus.find?_take h.found ht
  have hreceived : receivedIn id (p, .receive id) = [m] := by
    simp only [receivedIn, if_true]
    rw [ht]
    rfl
  have hsame : received id (hist ++ [(p, .receive id)]) ++ rest
      = received id hist ++ sub.waiting := by
    rw [received_snoc, hreceived, hwaiting, List.append_assoc]
    rfl
  have hpublished : published (hist ++ [(p, .receive id)]) = published hist :=
    published_quiet hist rfl
  refine ⟨_, ⟨hfound, h.topic_eq, ?_, fun hroom => ?_⟩⟩
  · rw [hsame, hpublished]
    exact h.got
  · rw [hsame, hpublished]
    exact h.all hroom.init

/-- What is published is offered to the subscription. -/
theorem Follows.publish (h : Follows topic id hist p sub)
    (hp : Tracks topic capacity format hist' p s out) {m : Message} (hw : s.worker = .publishing m) :
    ∃ sub', Follows topic id (hist ++ [(p, .publish)])
      { p with
        carrier := (p.carrier.publish s.topic m.encode).1
        outcome := (p.carrier.publish s.topic m.encode).2 } sub' := by
  have hlive := (Bus.live_of_find? h.found).2
  have hfound := Bus.find?_publish h.found s.topic m.encode
  -- the sink publishes on the topic that is subscribed to
  unfold Bus.receive at hfound
  rw [if_neg (by rw [h.topic_eq, hp.topic_eq]; exact fun hne => hne rfl), if_pos hlive] at hfound
  have hpublished : published (hist ++ [(p, .publish)])
      = published hist ++ [⟨s.topic, m.encode⟩].map pair := by
    rw [published_snoc, hp.publishedIn_eq hw, List.map_singleton, pair, addressed]
  have hreceived : received id (hist ++ [(p, .publish)]) = received id hist :=
    received_quiet hist rfl
  rw [Remote.Carrier.publish_of_bus hp.transport]
  unfold Bus.offer at hfound
  split at hfound
  case isTrue hroom =>
    refine ⟨_, ⟨hfound, h.topic_eq, ?_, fun hnever => ?_⟩⟩
    · rw [hreceived, hpublished, ← List.append_assoc, List.map_append]
      exact h.got.append (.refl _)
    · rw [hreceived, hpublished, ← List.append_assoc, List.map_append, h.all hnever.init]
  case isFalse hfull =>
    refine ⟨_, ⟨hfound, h.topic_eq, ?_, fun hnever => ?_⟩⟩
    · rw [hreceived, hpublished]
      exact h.got.trans (List.sublist_append_left _ _)
    · -- the subscription is full, against what is asked for
      have hroom := hnever p (List.mem_append_right _ (List.mem_singleton.mpr rfl))
      rw [waiting_of_find? h.found] at hroom
      exact absurd hroom hfull

/-- **Every proper move leaves a subscription what it got in order.** -/
theorem follows_step (h : Follows topic id hist p sub)
    (hp : Tracks topic capacity format hist' p s out) (hstep : Step p a p')
    (ha : Proper topic id a) : ∃ sub', Follows topic id (hist ++ [(p, a)]) p' sub' := by
  cases hstep with
  | operate site o => exact ⟨sub, h.idle h.found rfl rfl⟩
  | raise i hr => exact ⟨sub, h.idle h.found rfl rfl⟩
  | tick now => exact ⟨sub, h.idle h.found rfl rfl⟩
  | sink a' hs ha' hstep => exact ⟨sub, h.idle h.found rfl rfl⟩
  | @publish s₀ m hs hw ho =>
      cases hs.symm.trans hp.remote
      exact h.publish hp hw
  | finish hs ho hstep => exact ⟨sub, h.idle h.found rfl rfl⟩
  | @subscribe bus id' topic' hsub =>
      obtain ⟨rfl, -⟩ := Bus.eq_subscribe hsub
      exact ⟨sub, h.idle (Bus.find?_subscribe_of_find? h.found topic') rfl rfl⟩
  | @receive bus m id' htake =>
      by_cases hid : id = id'
      · subst hid
        exact h.receive htake
      · have hreceived : receivedIn id (p, .receive id') = [] := by
          simp only [receivedIn]
          rw [if_neg (Ne.symm hid)]
        exact ⟨sub, h.idle (Bus.find?_take_of_ne h.found hid htake) rfl hreceived⟩
  | drop id' => exact ⟨sub, h.idle (Bus.find?_drop_of_ne h.found (Ne.symm ha)) rfl rfl⟩
  | elsewhere topic' payload =>
      have hfound := Bus.find?_publish h.found topic' payload
      unfold Bus.receive at hfound
      rw [if_pos (by rw [h.topic_eq]; exact Ne.symm ha)] at hfound
      exact ⟨sub, h.idle hfound rfl rfl⟩

/-- A run from the subscription on. -/
theorem follows_run {q : Pipeline} {after : History} (hp : Tracks topic capacity format hist p s out)
    (h : Follows topic id [] p sub) (hrun : Run p after q)
    (hproper : ∀ e ∈ after, Proper topic id e.2) :
    ∃ s' out' sub', Tracks topic capacity format (hist ++ after) q s' out'
      ∧ Follows topic id after q sub' := by
  induction hrun with
  | start => exact ⟨s, out, sub, by rwa [List.append_nil], h⟩
  | @next after q q' a _ hstep ih =>
      obtain ⟨s₁, out₁, sub₁, hp₁, h₁⟩ := ih fun e he => hproper e (List.mem_append_left _ he)
      have ha : Proper topic id a :=
        hproper (q, a) (List.mem_append_right _ (List.mem_singleton.mpr rfl))
      obtain ⟨s₂, out₂, hp₂⟩ := tracks_step id hp₁ hstep ha
      obtain ⟨sub₂, h₂⟩ := follows_step h₁ hp₁ hstep ha
      exact ⟨s₂, _, sub₂, by rwa [← List.append_assoc], h₂⟩

/-! ## All the way -/

theorem passedIn_of_logs {e : Pipeline × Move} (h : e.2.logs = false) : passedIn format e = [] := by
  obtain ⟨p, a⟩ := e
  cases a with
  | operate site o =>
      cases o with
      | log name l message => cases h
      | notify name message => cases h
      | network name message warning => cases h
      | _ => rfl
  | raise i => cases h
  | _ => rfl

/-- No record passes without a logging call. -/
theorem passed_of_logs (h : ∀ e ∈ hist, e.2.logs = false) : passed format hist = [] :=
  List.flatMap_eq_nil_iff.mpr fun e he => passedIn_of_logs (h e he)

/-- Published messages are decoded one by one. -/
theorem exists_decoded {ms : List Message}
    (h : ∀ m ∈ ms, Decimal.exponentBits m.timestamp ≤ 1087) :
    ∃ messages : List Message,
      (ms.map Message.encode).map Message.decode = messages.map .ok
      ∧ messages.map Message.entry = ms.map Message.entry := by
  induction ms with
  | nil => exact ⟨[], List.map_nil, rfl⟩
  | cons m ms ih =>
      obtain ⟨messages, hdecode, hentry⟩ := ih fun m hm => h m (List.mem_cons_of_mem _ hm)
      obtain ⟨m', hm', he⟩ := Message.exists_decode_encode (h m List.mem_cons_self)
      refine ⟨m' :: messages, ?_, ?_⟩
      · rw [List.map_cons, List.map_cons, List.map_cons, hm', hdecode]
      · rw [List.map_cons, List.map_cons, he, hentry]

/--
**What is delivered is what passed.**

A manager is built with shipping on, and over its bus somebody subscribes to the
resolved topic before anything is logged. Then everything that the subscription
gets can be decoded, and it tells of records that passed their loggers'
thresholds, in that order and of each at most once, with the text that the format
makes of them. Nothing is missing where no message was dropped, all that was
queued has been handed over, and the subscription never was full.
-/
theorem delivered_sublist_passed {names : Registry} {plan : Manager.Plan} {m : Manager}
    {events : List Event} {room : Nat} {before after : History} {p p' q : Pipeline}
    (hbuild : Manager.build names plan = .ok (m, events))
    (hon : plan.config.remote.enabled = true) (hclock : plan.clock.InRange)
    (hbefore : Run ⟨m, ⟨.bus, .ofCapacity room⟩, none, []⟩ before p)
    (hquiet : ∀ e ∈ before, e.2.logs = false)
    (hsubscribe : Step p (.subscribe plan.config.remote.resolvedTopic) p')
    (hafter : Run p' after q)
    (hproper : ∀ e ∈ before ++ after,
      Proper plan.config.remote.resolvedTopic p.carrier.bus.nextId e.2) :
    ∃ messages : List Message,
      (delivered p.carrier.bus.nextId after q).map Message.decode = messages.map .ok
      ∧ (messages.map Message.entry).Sublist (passed plan.format after)
      ∧ ((∀ s, q.manager.remote = some s → s.stats.dropped = 0) → q.HandedOver →
          NeverFull p.carrier.bus.nextId after →
          messages.map Message.entry = passed plan.format after) := by
  obtain ⟨s₀, out₀, hinit⟩ := tracks_init hbuild hon hclock room
  obtain ⟨s₁, out₁, hp⟩ := tracks_run hinit hbefore fun e he =>
    hproper e (List.mem_append_left _ he)
  obtain ⟨sub₀, hsub₀⟩ := follows_init hp.numbered hsubscribe
  obtain ⟨s₂, out₂, hp'⟩ := tracks_step p.carrier.bus.nextId hp hsubscribe trivial
  obtain ⟨s, out, sub, hq, hsub⟩ := follows_run hp' hsub₀ hafter fun e he =>
    hproper e (List.mem_append_right _ he)
  -- nothing passed before the subscription was made, so nothing was published either
  have hnone : passed plan.format ([] ++ before
      ++ [(p, .subscribe plan.config.remote.resolvedTopic)]) = [] := by
    refine passed_of_logs fun e he => ?_
    rcases List.mem_append.mp he with he | he
    · exact hquiet e he
    · rw [List.mem_singleton.mp he]
      rfl
  have hpublished := hq.published_sublist
  have hentries := hq.entries
  rw [published_append, hp'.published_nil hnone, List.nil_append] at hpublished
  rw [passed_append, hnone, List.nil_append] at hentries
  obtain ⟨ms, hms, hpairs⟩ := List.sublist_map_iff.mp (hsub.got.trans hpublished)
  obtain ⟨messages, hdecode, hentry⟩ := exists_decoded fun m hm => hq.times m (hms.subset hm)
  refine ⟨messages, ?_, ?_, fun hdropped hover hroom => ?_⟩
  · have hpayloads := congrArg (List.map Prod.snd) hpairs
    simp only [List.map_map, Function.comp_def, pair, addressed] at hpayloads
    rw [delivered, waiting_of_find? hsub.found, ← hdecode]
    exact congrArg (List.map Message.decode) hpayloads
  · rw [hentry, ← hentries]
    exact hms.map _
  · have hall := hq.published_eq (hdropped s hq.remote) hover
    rw [published_append, hp'.published_nil hnone, List.nil_append, ← hsub.all hroom, hpairs] at hall
    -- what was delivered is part of what passed and just as long
    have hlen := congrArg List.length hall
    rw [List.length_map, List.length_map] at hlen
    rw [hentry, hms.eq_of_length hlen, hentries]

/-- Shipping with room for one record. -/
def singlePlan : Manager.Plan where
  config := { remote := { enabled := true, topic := some "records", queueCapacity := 1 } }
  hasTransport := true
  testMode := .forced true
  clock := { seconds := 1, civil := "2024-01-01 12:00:00", precise := "2024-01-01 12:00:00,000" }

/-- A manager of the plan, its bus, and one subscription. -/
def singleStart : Pipeline :=
  ⟨Manager.assemble .defaults singlePlan Level.info (some (.ofCapacity "records" 1)),
    ⟨.bus, ((Bus.ofCapacity 1).subscribe "records").1⟩, none, []⟩

/-- One record goes all the way. -/
theorem delivered_sublist_passed_singleRun :
    ∃ (after : History) (q : Pipeline) (messages : List Message),
      Run singleStart after q ∧ after.map Prod.snd =
        [.operate ⟨"app", 1⟩ (.log "app" Level.info "ready"), .sink .take, .publish, .receive 0]
      ∧ (delivered 0 after q).map Message.decode = messages.map .ok
      ∧ messages.map Message.entry = [("app", 20, "INFO", "ready")] := by
  have hsubscribe : Step { singleStart with carrier := ⟨.bus, .ofCapacity 1⟩ }
      (.subscribe "records") singleStart := .subscribe _ rfl
  have hlog := (@Run.start singleStart).next
    (.operate ⟨"app", 1⟩ (.log "app" Level.info "ready"))
  have htake := hlog.next (.sink .take rfl rfl rfl)
  have hpublish := htake.next (.publish rfl rfl rfl)
  have hreceive := hpublish.next (.receive 0 rfl)
  obtain ⟨messages, hdecode, -, hall⟩ := delivered_sublist_passed
    (show Manager.build .defaults singlePlan = .ok (singleStart.manager, _) from rfl) rfl
    (by decide +kernel) .start (fun e he => absurd he List.not_mem_nil) hsubscribe hreceive (by
      simp only [List.nil_append, List.forall_mem_append, List.forall_mem_singleton]
      exact ⟨⟨⟨rfl, trivial⟩, trivial⟩, trivial⟩)
  refine ⟨_, _, messages, hreceive, rfl, hdecode, ?_⟩
  rw [hall ?_ ?_ ?_]
  · decide +kernel
  · intro s hs
    cases hs
    rfl
  · intro s hs
    cases hs
    exact ⟨rfl, fun _ => rfl⟩
  · intro p hp
    simp only [List.mem_append, List.mem_singleton, List.not_mem_nil, Prod.mk.injEq, reduceCtorEq,
      and_false, false_or, or_false, and_true] at hp
    subst hp
    decide +kernel

end Pipeline

end Herald
