import Herald.Proofs.Manager.Backstage
import Herald.Proofs.Manager.Dispatch
import Herald.Proofs.Remote.Barrier

/-!
# The counters of the manager and those of its sink

A manager counts a record when it passes its logger's threshold, and its remote sink
counts a message when it gets into the queue or is dropped. Where the manager alone
attaches the sink and nobody else emits into it, these are the same records: each one
passes the sink once, right after it was counted. So the counters have the same sum
at every moment between calls, whatever the worker does, also in the middle of a call,
however publishes end, and also when the sink is closed.

By ranks they need not agree. The manager's counters are found by the digests of the
level names, so the counter of a rank has the records of all ranks whose names have
its digest.
-/

namespace Herald

namespace Manager

open Remote (Signal accepted offered)

/-- Only the manager attaches its remote sink, and nobody else emits into it. -/
def Move.Own : Move → Prop
  | .call c meanwhile =>
    c.operation.attachesRemote = false ∧ ∀ a ∈ meanwhile, a.isOffer = false ∧ a ≠ .count
  | .tick _ => True
  | .remote a => a.isOffer = false ∧ a ≠ .count

/-- The records that pass in a move, as they are shipped at that moment. -/
def passedIn : Manager × Move → List Message
  | (m, .call c _) => (m.passing c.site c.operation).map m.messageOf
  | _ => []

/-- The records that passed, in order. -/
def passed (hist : History) : List Message := hist.flatMap passedIn

variable {names : Registry} {plan : Plan} {topic : String} {capacity : Nat} {hist : History}
  {m q q' : Manager} {s s' : Remote.Sink} {messages : List Message} {seen out : List Signal}
  {a : Move}

theorem passed_snoc (hist : History) (e : Manager × Move) :
    passed (hist ++ [e]) = passed hist ++ passedIn e := by
  simp [passed]

/--
Both counters have got these messages. `out` is what the sink let be seen, and `seen` the
part of it that was seen in calls.
-/
structure Tallies (names : Registry) (topic : String) (capacity : Nat) (messages : List Message)
    (seen : List Signal) (q : Manager) (s : Remote.Sink) (out : List Signal) : Prop where
  attached : q.Attached
  remote : q.remote = some s
  /-- The sink is where a run of it leads, and no emit is half-way. -/
  leads : Remote.Sink.Leads (.ofCapacity topic capacity) out s
  uncounted : s.uncounted = 0
  offered : offered out = messages
  /-- Whatever was accepted or dropped was so in a call. -/
  inCalls : Remote.accepted seen = accepted out ∧ Remote.offered seen = Remote.offered out
  names_eq : q.names = names
  named : ∀ message ∈ messages, message.levelName = Level.name names ⟨message.levelNo⟩
  counted : q.metrics.records = (messages.map Message.levelName).foldl Tally.bump []

theorem tallies_build {started : List Event} (hbuild : build names plan = .ok (m, started))
    (hon : plan.config.remote.enabled = true) :
    ∃ s, Tallies names plan.config.remote.resolvedTopic plan.config.remote.queueCapacity.toNat
      [] [] m s [] := by
  obtain ⟨hatt, -, -, hremote⟩ := attached_build hbuild hon
  obtain ⟨root, remote, -, rfl⟩ := exists_assemble_of_build hbuild
  exact ⟨_, hatt, hremote, .refl _, rfl, rfl, ⟨rfl, rfl⟩, rfl,
    fun _ hm => absurd hm List.not_mem_nil, rfl⟩

/-! ## What is counted by both -/

/-- Records that are shipped and counted. -/
theorem Tallies.performs (h : Tallies names topic capacity messages seen q s out)
    {rs : List Record} {events : List Event} (hperf : Performs q rs q' events)
    (hnames : q'.names = q.names)
    (hcounted : q'.metrics.records = (rs.map Record.levelName).foldl Tally.bump q.metrics.records)
    (hnamed : ∀ r ∈ rs, r.levelName = r.level.name q.names) :
    ∃ s' out', Tallies names topic capacity (messages ++ rs.map q.messageOf)
      (seen ++ shipped events) q' s' out' := by
  obtain ⟨s', hremote, hem⟩ := hperf.emitted h.remote h.uncounted
  refine ⟨s', _, hperf.attached, hremote, h.leads.trans hem.leads, hem.uncounted, ?_, ?_,
    hnames.trans h.names_eq, ?_, ?_⟩
  · rw [Remote.offered_append, hem.offered, h.offered]
  · rw [Remote.accepted_append, Remote.offered_append, Remote.accepted_append,
      Remote.offered_append, h.inCalls.1, h.inCalls.2]
    exact ⟨rfl, rfl⟩
  · intro message hmessage
    rcases List.mem_append.mp hmessage with hmessage | hmessage
    · exact h.named message hmessage
    · obtain ⟨r, hr, rfl⟩ := List.mem_map.mp hmessage
      rw [← h.names_eq]
      exact hnamed r hr
  · rw [hcounted, h.counted, List.map_append, List.foldl_append, List.map_map]
    rfl

/-- What an operation does before it raises a warning. -/
theorem Tallies.first (h : Tallies names topic capacity messages seen q s out) (site : Site)
    {o : Operation} (ho : o.attachesRemote = false) :
    ∃ s' out', Tallies names topic capacity
      (messages ++ (q.passing site o.first).map q.messageOf)
      (seen ++ shipped (q.perform site o.first).2.1) (q.perform site o.first).1 s' out' := by
  obtain ⟨hnames, hcounted⟩ := counted_first h.attached site o
  exact h.performs (performs_first h.attached site ho) hnames hcounted
    fun _ hr => levelName_of_mem_passing hr

/-- A warning that is raised. -/
theorem Tallies.raise (h : Tallies names topic capacity messages seen q s out) (r : Raising) :
    ∃ s' out', Tallies names topic capacity (messages ++ (q.raised (some r)).map q.messageOf)
      (seen ++ shipped (q.raise r.site r.key r.warning).2.1)
      (q.raise r.site r.key r.warning).1 s' out' := by
  have hlogs := logs_raise h.attached r.site r.key r.warning
  exact h.performs (hlogs.performs h.attached) hlogs.rules.names hlogs.counted
    fun _ hr => levelName_of_mem_logged hr

/-! ## What is counted by neither -/

theorem Tallies.same (h : Tallies names topic capacity messages seen q s out)
    (hrules : SameRules q q') (hremote : q'.remote = q.remote)
    (hrecords : q'.metrics.records = q.metrics.records) :
    Tallies names topic capacity messages seen q' s out :=
  { h with
    attached := h.attached.of_sameRules hrules (by rw [hremote, h.remote]; rfl)
    remote := hremote.trans h.remote
    names_eq := hrules.names.trans h.names_eq
    counted := hrecords.trans h.counted }

/-- A step of the sink that is not part of an emit. -/
theorem Tallies.remote_step (h : Tallies names topic capacity messages seen q s out)
    {b : Remote.Action} {out' : List Signal} (hb : b.isOffer = false ∧ b ≠ .count)
    (hstep : s.step b = some (s', out')) :
    Tallies names topic capacity messages seen (q.withRemote s' out') s' (out ++ out') := by
  have hsteps := Remote.Sink.steps_of_step_eq hstep
  have hoffered : Remote.offered out' = [] := Remote.Sink.offered_step hsteps hb.1
  have haccepted : accepted out' = [] := by
    have hsublist := Remote.accepted_sublist_offered out'
    rw [hoffered] at hsublist
    exact List.sublist_nil.mp hsublist
  refine ⟨h.attached.of_sameRules (sameRules_withRemote h.remote s' out') rfl, rfl,
    h.leads.trans (.step hstep), (Remote.Sink.uncounted_step hsteps hb.1 hb.2).trans h.uncounted,
    ?_, ?_, h.names_eq, h.named, (records_withRemote _ _ _).trans h.counted⟩
  · rw [Remote.offered_append, hoffered, List.append_nil, h.offered]
  · rw [Remote.accepted_append, haccepted, Remote.offered_append, hoffered, List.append_nil,
      List.append_nil]
    exact h.inCalls

/-- Several such steps in the middle of a call. -/
theorem Tallies.drift (h : Tallies names topic capacity messages seen q s out)
    {as : List Remote.Action} (has : ∀ b ∈ as, b.isOffer = false ∧ b ≠ .count) :
    ∃ s' out', Tallies names topic capacity messages seen (q.drift as) s' out' := by
  induction as generalizing q s out with
  | nil => exact ⟨s, out, h⟩
  | cons b rest ih =>
      have hrest : ∀ b' ∈ rest, b'.isOffer = false ∧ b' ≠ .count := fun b' hb' =>
        has b' (List.mem_cons_of_mem b hb')
      rw [Manager.drift, h.remote, Option.bind_some]
      cases hstep : s.step b with
      | none => exact ih h hrest
      | some t => exact ih (h.remote_step (has b List.mem_cons_self) hstep) hrest

/-! ## Calls and moves -/

/-- A call counts what it makes the sink count, whatever the sink does in the middle of it. -/
theorem Tallies.call (h : Tallies names topic capacity messages seen q s out) {c : Call}
    {as : List Remote.Action} (hown : (Move.call c as).Own) :
    ∃ s' out', Tallies names topic capacity (messages ++ passedIn (q, .call c as))
      (seen ++ shipped (eventsIn (q, .call c as))) (c.run q as).1 s' out' := by
  -- as a variable, so that no rewrite looks into the update
  obtain ⟨q₁, hq₁⟩ : ∃ q₁, q₁ = { q with stack := c.stack } := ⟨_, rfl⟩
  have hrules : SameRules q q₁ := hq₁ ▸ sameRules_stack q c.stack
  have h₁ := h.same hrules (by rw [hq₁]) (by rw [hq₁])
  have hrun : c.run q as = q₁.perform c.site c.operation as := by rw [hq₁, Call.run]
  have hpassed : passedIn (q, .call c as)
      = (q₁.passing c.site c.operation).map q₁.messageOf := by
    rw [hrules.passing, hrules.messageOf]
    rfl
  rw [hpassed, eventsIn, hrun, passing_eq, perform_eq q₁ c.site c.operation as]
  obtain ⟨s₂, out₂, h₂⟩ := h₁.first c.site hown.1
  cases hraising : (q₁.perform c.site c.operation.first).1.raising? c.site c.operation with
  | none =>
      rw [raised, List.append_nil]
      exact ⟨s₂, out₂, h₂⟩
  | some r =>
      -- in between the sink goes on by itself, under the rules of the first part
      have hfirst := sameRules_first q₁ c.site hraising
      generalize q₁.perform c.site c.operation.first = t at h₂ hfirst ⊢
      obtain ⟨q₂, events, completion⟩ := t
      have hsame := hfirst.trans (sameRules_drift q₂ as)
      obtain ⟨s₃, out₃, h₃⟩ := h₂.drift hown.2
      obtain ⟨s₄, out₄, h₄⟩ := h₃.raise r
      refine ⟨s₄, out₄, ?_⟩
      dsimp only at h₄ ⊢
      rw [raised, hsame.logged, hsame.messageOf] at h₄
      rw [raised, List.map_append, ← List.append_assoc, shipped_append, ← List.append_assoc]
      exact h₄

/-- **Every move leaves the counters together.** -/
theorem tallies_step (h : Tallies names topic capacity messages seen q s out)
    (hstep : Step q a q') (ha : a.Own) :
    ∃ s' out', Tallies names topic capacity (messages ++ passedIn (q, a))
      (seen ++ shipped (eventsIn (q, a))) q' s' out' := by
  have hnothing : ∀ {q' s' out'}, Tallies names topic capacity messages seen q' s' out' →
      ∃ s' out', Tallies names topic capacity (messages ++ []) (seen ++ []) q' s' out' := by
    intro q' s' out' h'
    rw [List.append_nil, List.append_nil]
    exact ⟨s', out', h'⟩
  cases hstep with
  | call c as => exact h.call ha
  | tick now =>
      have hatt : Attached { q with clock := now } :=
        ⟨h.attached.there, h.attached.first, h.attached.notRoot⟩
      exact hnothing { h with attached := hatt }
  | remote b hs hstep =>
      obtain rfl := Option.some.inj (hs.symm.trans h.remote)
      exact hnothing (h.remote_step ha hstep)

theorem tallies_course (h₀ : ∃ s out, Tallies names topic capacity [] [] m s out)
    (h : Course m hist q) (hown : ∀ e ∈ hist, e.2.Own) :
    ∃ s out, Tallies names topic capacity (passed hist) (shipped (events hist)) q s out := by
  induction h with
  | start => exact h₀
  | next _ hstep ih =>
      obtain ⟨s, out, h⟩ := ih fun e he => hown e (List.mem_append_left _ he)
      rw [passed_snoc, events_snoc, shipped_append]
      exact tallies_step h hstep (hown _ (List.mem_append_right _ (List.mem_singleton.mpr rfl)))

/-- A shutdown is a course of such moves, whatever it reports. -/
theorem Tallies.shutdown (h : Tallies names topic capacity messages seen q s out)
    (c : Remote.Carrier) :
    ∃ hist', Course q hist' (q.shutdown c).1 ∧ calls hist' = [] ∧ ∀ e ∈ hist', e.2.Own := by
  obtain ⟨as, hrun⟩ := Remote.Uplink.leads_close ⟨s, c⟩
  obtain ⟨-, hown⟩ := Remote.Sink.no_emit_of_offered_nil hrun h.uncounted
    (Remote.Uplink.offered_close _)
  obtain ⟨hist', hcourse, hmoves⟩ := exists_course_of_run h.remote hrun
  rw [shutdown_of_remote h.remote]
  refine ⟨hist', hcourse, calls_eq_nil hmoves, fun e he => ?_⟩
  obtain ⟨a, ha, hremote⟩ := exists_remote_of_mem hmoves he
  rw [hremote]
  exact hown a ha

/-- What was offered is what the sink has counted. -/
theorem Tallies.lengths (h : Tallies names topic capacity messages seen q s out) :
    (accepted out).length = s.stats.queued
      ∧ messages.length = s.stats.queued + s.stats.dropped := by
  obtain ⟨as, hrun⟩ := h.leads
  have haccepted := Remote.Sink.length_accepted hrun
  have hpending := (Remote.Sink.balanced_run hrun).pending
  have hoffered := Remote.Sink.length_offered_run hrun
  rw [h.offered] at hoffered
  rw [h.uncounted] at hpending
  rw [Remote.Sink.finished] at haccepted
  omega

/--
**Logger counters and remote counters tally in sum, and by rank up to the digests.**

A manager is built with shipping on, and from then on callers log, change thresholds and
attach other sinks, the worker works, publishes end in any way, and others flush and close
the sink. Between calls, every record that passed its logger's threshold has been offered
to the sink once, under the name of its level, and the sink has counted it as queued or as
dropped. The manager's counters have these counts as their sum, and the counter of a name
has the records whose level names have its digest. For a rank these are the records of that
rank exactly if no record of another rank has a name of the same digest. A shutdown is again
a course of such moves, so all of this holds after it as well.
-/
theorem counters_tally {started : List Event} (hbuild : build names plan = .ok (m, started))
    (hon : plan.config.remote.enabled = true) (h : Course m hist q)
    (hown : ∀ e ∈ hist, e.2.Own) :
    ∃ s, q.remote = some s
      ∧ offered (shipped (events hist)) = passed hist
      ∧ (accepted (shipped (events hist))).length = s.stats.queued
      ∧ (passed hist).length = s.stats.queued + s.stats.dropped
      ∧ (∀ message ∈ passed hist, message.levelName = Level.name names ⟨message.levelNo⟩)
      ∧ q.metrics.records.total = s.stats.queued + s.stats.dropped
      ∧ (∀ label, q.metrics.records.count label
          = (passed hist).countP fun message =>
              Text.digest message.levelName = Text.digest label)
      ∧ (∀ l : Level, q.metrics.records.count (l.name names)
            = (passed hist).countP (fun message => message.levelNo = l.rank)
          ↔ ∀ message ∈ passed hist,
              Text.digest message.levelName = Text.digest (l.name names) →
                message.levelNo = l.rank)
      ∧ ∀ c, ∃ hist', Course q hist' (q.shutdown c).1 ∧ calls hist' = []
          ∧ ∀ e ∈ hist', e.2.Own := by
  obtain ⟨s, out, htallies⟩ := tallies_course
    (by obtain ⟨s, h₀⟩ := tallies_build hbuild hon; exact ⟨s, _, h₀⟩) h hown
  obtain ⟨hqueued, hlength⟩ := htallies.lengths
  have hcount : ∀ label, q.metrics.records.count label
      = (passed hist).countP fun message =>
          Text.digest message.levelName = Text.digest label := by
    intro label
    rw [htallies.counted, Tally.count_foldl_bump, List.countP_map]
    exact Nat.zero_add _
  refine ⟨s, htallies.remote, ?_, ?_, hlength, htallies.named, ?_, hcount, fun l => ?_,
    htallies.shutdown⟩
  · rw [htallies.inCalls.2, htallies.offered]
  · rw [htallies.inCalls.1, hqueued]
  · rw [htallies.counted, Tally.total_foldl_bump, List.length_map, hlength]
    exact Nat.zero_add _
  · rw [hcount, countP_eq_countP_iff]
    · simp only [decide_eq_true_eq]
    · intro message hmessage hrank
      rw [htallies.named message hmessage, of_decide_eq_true hrank]
      exact decide_eq_true rfl

/-- Shipping with room for one record. -/
def narrowPlan : Plan where
  config :=
    { rootLevel := "1", remote := { enabled := true, topic := some "records", queueCapacity := 1 } }
  hasTransport := true
  testMode := .forced true
  clock := ⟨1, "", ""⟩

/-- What is built of it with two levels whose names have one digest. -/
def narrowStart : Manager :=
  assemble twinLevels narrowPlan ⟨1⟩ (some (.ofCapacity "records" 1))

/-- A record at one of the two levels is shipped, and one at the other comes after the close. -/
def closingMoves : List Move :=
  [.call ⟨⟨"app", 1⟩, [], .log "x" ⟨27⟩ "m"⟩, .remote .take, .remote (.finish .published),
    .remote .beginClose, .call ⟨⟨"app", 1⟩, [], .log "y" ⟨26⟩ "m"⟩]

/-- Both records are counted once on either side, but the lower level is said to have had both. -/
theorem counters_tally_closingRun :
    ∃ hist q s, Course narrowStart hist q ∧ hist.map Prod.snd = closingMoves
      ∧ q.remote = some s ∧ s.stats = ⟨1, 1, 0, 1⟩
      ∧ q.metrics.records.total = s.stats.queued + s.stats.dropped
      ∧ (passed hist).map Message.levelNo = [27, 26]
      ∧ q.metrics.records.count (Level.name twinLevels ⟨26⟩) = 2 := by
  have hfirst := (@Course.start narrowStart).next (.call ⟨⟨"app", 1⟩, [], .log "x" ⟨27⟩ "m"⟩ [])
  have htake := hfirst.next (.remote .take rfl rfl)
  have hfinish := htake.next (.remote (.finish .published) rfl rfl)
  have hclose := hfinish.next (.remote .beginClose rfl rfl)
  have hlast := hclose.next (.call ⟨⟨"app", 1⟩, [], .log "y" ⟨26⟩ "m"⟩ [])
  obtain ⟨s, hs, -, -, -, -, htotal, hcount, -, -⟩ := counters_tally
    (show build twinLevels narrowPlan = .ok (narrowStart, _) from rfl) rfl hlast (by
      simp only [List.nil_append, List.forall_mem_append, List.forall_mem_singleton]
      exact ⟨⟨⟨⟨⟨rfl, by simp⟩, rfl, by simp⟩, rfl, by simp⟩, rfl, by simp⟩, rfl, by simp⟩)
  refine ⟨_, _, s, hlast, rfl, hs, ?_, htotal, by decide +kernel, ?_⟩
  · obtain rfl := Option.some.inj hs
    decide +kernel
  · rw [hcount]
    decide +kernel

end Manager

end Herald
