import Herald.Proofs.Remote.Barrier
import Herald.Proofs.Remote.Emission

/-!
# A closed sink stays closed and lets nothing in

No step takes the flag back that a close sets, so what matters is what a step can
still do once the flag is set: it may let the worker go on, and calls that wait move
on or give up, but no message gets in, none is counted as queued, and every emit is
counted as dropped (`Since`).

The stop is sent by a close that has got through its flush. A close that finds the
flag set returns at once, so there is only ever one close that could send it, and
once it has done so it waits for the worker and sends nothing more (`OneStop`).
-/

namespace Herald.Remote

/-- Whether an action sends the stop. -/
def Action.isStop : Action → Bool
  | .sendStop _ => true
  | _ => false

/-- How many stops were sent. -/
def stops (as : List Action) : Nat := as.countP Action.isStop

theorem stops_snoc (as : List Action) (a : Action) :
    stops (as ++ [a]) = stops as + if a.isStop then 1 else 0 := by
  simp [stops, List.countP_append, List.countP_cons]

namespace Sink

variable {s s' s'' s₀ : Sink} {a : Action} {as as' : List Action} {out out' : List Signal} {t : Nat}

/-- The flag is set by the beginning of a close, and never taken back. -/
theorem closed_step (hs : Steps s a s' out) :
    s'.closed = true ↔ s.closed = true ∨ a = .beginClose := by
  cases hs with
  | beginClose hu hc => exact iff_of_true rfl (.inr rfl)
  | again hu hc => exact iff_of_true hc (.inl hc)
  | _ => exact (or_iff_left (by simp)).symm

theorem closed_iff_mem {topic : String} {capacity : Nat}
    (h : Run (ofCapacity topic capacity) as out s) : s.closed = true ↔ .beginClose ∈ as := by
  induction h with
  | start => simp [ofCapacity]
  | next _ hs ih =>
      rw [closed_step (step_eq_some_iff.mp hs), ih, List.mem_append, List.mem_singleton]
      exact or_congr_right eq_comm

/-! ## One close, one stop -/

/-- A close under way, and whether it has sent the stop. -/
structure OneStop (as : List Action) (s : Sink) : Prop where
  /-- No two closes are under way. -/
  single : ∀ {t u : Nat} {p q : Phase}, s.call? t = some ⟨t, true, p⟩ →
    s.call? u = some ⟨u, true, q⟩ → t = u
  /-- After the stop the close waits for the end of the worker. -/
  sent : stops as ≠ 0 → ∀ {t : Nat} {p : Phase}, s.call? t = some ⟨t, true, p⟩ → p = .joining
  closed : stops as ≠ 0 → s.closed = true
  most : stops as ≤ 1

/-- A step that sends no stop and begins no close. -/
theorem OneStop.keep (h : OneStop as s) (ha : a.isStop = false)
    (hcall : ∀ {u : Nat} {p : Phase}, s'.call? u = some ⟨u, true, p⟩ →
      s.call? u = some ⟨u, true, p⟩)
    (hclosed : s.closed = true → s'.closed = true) : OneStop (as ++ [a]) s' := by
  have hstops : stops (as ++ [a]) = stops as := by rw [stops_snoc, ha]; rfl
  constructor
  · intro t u p q ht hu
    exact h.single (hcall ht) (hcall hu)
  · rw [hstops]
    exact fun hn _ _ hc => h.sent hn (hcall hc)
  · rw [hstops]
    exact fun hn => hclosed (h.closed hn)
  · rw [hstops]
    exact h.most

/-- A call moves on, and it is not yet the close that waits for the worker. -/
theorem OneStop.advance {b : Bool} {p q : Phase} (h : OneStop as s) (ha : a.isStop = false)
    (hcall : s.call? t = some ⟨t, b, p⟩) (hp : p ≠ .joining) :
    OneStop (as ++ [a]) (s.advance t q) := by
  have hstops : stops (as ++ [a]) = stops as := by rw [stops_snoc, ha]; rfl
  have hbefore : ∀ {u : Nat} {r : Phase}, (s.advance t q).call? u = some ⟨u, true, r⟩ →
      ∃ r', s.call? u = some ⟨u, true, r'⟩ := by
    intro u r hu
    rcases call?_advance_cases hcall hu with ⟨_, hu⟩ | ⟨rfl, he⟩
    · exact ⟨_, hu⟩
    · cases he; exact ⟨_, hcall⟩
  constructor
  · intro u v r r' hu hv
    obtain ⟨_, hu⟩ := hbefore hu
    obtain ⟨_, hv⟩ := hbefore hv
    exact h.single hu hv
  · intro hn u r hu
    rw [hstops] at hn
    rcases call?_advance_cases hcall hu with ⟨_, hu⟩ | ⟨rfl, he⟩
    · exact h.sent hn hu
    · cases he
      exact absurd (h.sent hn hcall) hp
  · rw [hstops]
    exact h.closed
  · rw [hstops]
    exact h.most

theorem OneStop.dismiss (h : OneStop as s) (ha : a.isStop = false) (t : Nat) (e : Ending) :
    OneStop (as ++ [a]) (s.dismiss t e).1 :=
  h.keep ha (fun hu => (call?_of_call?_dismiss hu).2) id

/-- **There is one close that can send the stop, and it sends one.** -/
theorem oneStop_step (hi : s.Sound) (h : OneStop as s) (hs : Steps s a s' out) :
    OneStop (as ++ [a]) s' := by
  cases hs with
  | barred m hc => exact h.keep rfl id id
  | full m hc hr => exact h.keep rfl id id
  | accept m hc hr => exact h.keep rfl id id
  | count hu => exact h.keep rfl id id
  | refuse hc => exact h.keep rfl id id
  | beginFlush hc =>
      refine h.keep rfl (fun hu => ?_) id
      rcases call?_enroll_cases hi.call?_nextTicket hu with hu | ⟨_, he⟩
      · exact hu
      · cases he
  | again hu hc => exact h.keep rfl id id
  | beginClose hu hc =>
      -- the sink was open, so there was no close under way and no stop
      have hnone : ∀ {u : Nat} {p : Phase},
          Sink.call? (Sink.enroll { s with closed := true } true) u = some ⟨u, true, p⟩ →
            u = s.nextTicket := by
        intro u p hcall
        rcases call?_enroll_cases (s := { s with closed := true }) hi.call?_nextTicket hcall with
          hcall | ⟨he, _⟩
        · exact absurd (hc.symm.trans (hi.closing hcall)) Bool.false_ne_true
        · exact he
      have hzero : stops (as ++ [.beginClose]) = 0 := by
        have hbefore : stops as = 0 := by
          by_contra hn
          exact absurd (hc.symm.trans (h.closed hn)) Bool.false_ne_true
        rw [stops_snoc, hbefore]
        rfl
      refine ⟨fun ht hu => (hnone ht).trans (hnone hu).symm, fun hn => absurd hzero hn,
        fun _ => rfl, ?_⟩
      rw [hzero]
      exact Nat.zero_le 1
  | mark u closing hcall hr hw =>
      have hadded : OneStop as (s.enqueue (.flush u)) := ⟨h.single, h.sent, h.closed, h.most⟩
      exact hadded.advance rfl hcall (by simp)
  | flushed u hcall => exact h.dismiss rfl u _
  | goOn u hcall => exact h.advance rfl hcall (by simp)
  | sendStop u closing hcall hr hw =>
      obtain rfl : closing = true := hi.beyond hcall (.inl rfl)
      have hzero : stops as = 0 := by
        by_contra hn
        cases h.sent hn hcall
      have hone : stops (as ++ [.sendStop u]) = 1 := by rw [stops_snoc, hzero]; rfl
      have hself : ∀ {v : Nat} {r : Phase},
          ((s.enqueue .stop).advance u .joining).call? v = some ⟨v, true, r⟩ →
            v = u ∧ r = .joining := by
        intro v r hv
        rcases call?_advance_cases (s := s.enqueue .stop) hcall hv with ⟨hne, hv⟩ | ⟨he, hr⟩
        · exact absurd (h.single hv hcall) hne
        · cases hr
          exact ⟨he, rfl⟩
      refine ⟨fun ht hv => (hself ht).1.trans (hself hv).1.symm, fun _ _ _ hv => (hself hv).2,
        fun _ => hi.closing hcall, ?_⟩
      rw [hone]
  | join u closing hcall hw => exact h.dismiss rfl u _
  | giveUp u closing p hcall hp => exact h.dismiss rfl u _
  | giveUpStop u closing hcall => exact h.dismiss rfl u _
  | takeMessage m rest hw hq => exact h.keep rfl id id
  | reach u closing rest hw hq hcall =>
      have htaken : OneStop as { s with queue := rest } := ⟨h.single, h.sent, h.closed, h.most⟩
      exact htaken.advance rfl hcall (by simp)
  | pass u rest hw hq hcall => exact h.keep rfl id id
  | takeStop rest hw hq => exact h.keep rfl id id
  | finish m o hw => exact h.keep rfl id id

theorem oneStop_run {topic : String} {capacity : Nat}
    (h : Run (ofCapacity topic capacity) as out s) : OneStop as s := by
  induction h with
  | start =>
      exact ⟨fun ht => by simp [ofCapacity, call?] at ht, fun hn => absurd rfl hn,
        fun hn => absurd rfl hn, Nat.zero_le 1⟩
  | next hr hs ih => exact oneStop_step (sound_run hr) ih (step_eq_some_iff.mp hs)

/-! ## What a closed sink still does -/

/-- What these actions have done to a closed sink. -/
structure Since (s : Sink) (as : List Action) (out : List Signal) (s' : Sink) : Prop where
  closed : s'.closed = true
  queued : s'.stats.queued = s.stats.queued
  dropped : s'.stats.dropped = s.stats.dropped + emits as
  accepted : accepted out = []

theorem Since.trans (h : Since s as out s') (h' : Since s' as' out' s'') :
    Since s (as ++ as') (out ++ out') s'' where
  closed := h'.closed
  queued := h'.queued.trans h.queued
  dropped := by
    have happend : emits (as ++ as') = emits as + emits as' := List.countP_append
    rw [h'.dropped, h.dropped, happend, Nat.add_assoc]
  accepted := by rw [accepted_append, h.accepted, h'.accepted]; rfl

theorem since_step (hi : s.Sound) (hc : s.closed = true) (hs : Steps s a s' out) :
    Since s [a] out s' := by
  have hclosed : s'.closed = true := (closed_step hs).mpr (.inl hc)
  have hopen : s.closed ≠ false := by simp [hc]
  cases hs with
  | full m ho hr => exact absurd ho hopen
  | accept m ho hr => exact absurd ho hopen
  | beginFlush ho => exact absurd ho hopen
  | beginClose hu ho => exact absurd ho hopen
  | count hu =>
      -- whoever set the flag waited for the emits that were half-way
      exact absurd (hi.barred hc) (Nat.ne_of_gt hu)
  | finish m o hw => cases o <;> exact ⟨hclosed, rfl, rfl, rfl⟩
  | _ => exact ⟨hclosed, rfl, rfl, rfl⟩

/-- **From the flag on nothing gets in, however the run goes on.** -/
theorem since_run (hi : s₀.Sound) (hc : s₀.closed = true) (h : Run s₀ as out s) :
    s.Sound ∧ Since s₀ as out s := by
  induction h with
  | start => exact ⟨hi, hc, rfl, rfl, rfl⟩
  | next _ hs ih =>
      obtain ⟨hsound, hsince⟩ := ih
      have hs' := step_eq_some_iff.mp hs
      exact ⟨sound_step hsound hs', hsince.trans (since_step hsound hsince.closed hs')⟩

/-- An emit into a closed sink counts its message as dropped and does nothing else. -/
theorem emit_of_closed (hc : s.closed = true) (hu : s.uncounted = 0) (m : Message) :
    s.emit m = s.drop m := by
  have hoffer : s.attempt (.offer m) = s.drop m := by
    rw [attempt, (Steps.barred m hc).step_eq]
    rfl
  have hcount : (s.drop m).1.attempt .count = ((s.drop m).1, []) := by
    have hzero : ¬0 < (s.drop m).1.uncounted := Nat.not_lt_of_ge (Nat.le_of_eq hu)
    rw [attempt, step, if_neg hzero]
    rfl
  unfold emit
  rw [hoffer]
  dsimp only
  rw [hcount]
  rfl

end Sink

namespace Uplink

/-- A driven flush of a closed sink returns false. -/
theorem flush_of_closed {u : Uplink} (hc : u.sink.closed = true) : u.flush.2.2 = false := by
  obtain ⟨out', hout, _⟩ := leads_turns_cons (Sink.Steps.refuse hc).step_eq
    (flushMoves u.sink.nextTicket)
  rw [flush_eq, hout]
  simp [ending?, Ending.answer]

end Uplink

namespace Sink

variable {s : Sink} {as : List Action} {out : List Signal}

/--
**A closed sink stays closed and lets nothing in.**

The sink is closed from the moment when the first close begins, whatever becomes of that
close. In the whole run at most one stop is sent, and no message ever stands behind it.
However the run goes on once the sink is closed, it stays closed, no message is counted
as queued any more, and each emit is counted as dropped, once and in the metrics too. The
transport is only called for messages that got in before. At any later moment an emit does
nothing but count its message as dropped, and a flush is refused at once and returns false.
-/
theorem closed_for_good {topic : String} {capacity : Nat}
    (h : Run (ofCapacity topic capacity) as out s) :
    (s.closed = true ↔ .beginClose ∈ as)
      ∧ stops as ≤ 1
      ∧ (∀ front behind, s.queue = front ++ .stop :: behind → ∀ m, .publish m ∉ behind)
      ∧ (s.closed = true → ∀ more out' s', Run s more out' s' →
          s'.closed = true
            ∧ s'.stats.queued = s.stats.queued
            ∧ s'.stats.dropped = s.stats.dropped + emits more
            ∧ (∀ t : Metrics, ((out ++ out').foldl Manager.countSignal t).dropped
                = (out.foldl Manager.countSignal t).dropped + emits more)
            ∧ accepted out' = []
            ∧ handed (out ++ out') <+: (accepted out).map (Message.addressed topic)
            ∧ (∀ m, s'.step (.offer m) = some (s'.drop m) ∧ s'.emit m = s'.drop m
                ∧ s'.drop m = ({ s' with
                    stats := { s'.stats with dropped := s'.stats.dropped + 1 } }, [.dropped m])
                ∧ ∀ t : Metrics, (s'.drop m).2.foldl Manager.countSignal t
                    = { t with dropped := t.dropped + 1 })
            ∧ s'.step .beginFlush = some ({ s' with nextTicket := s'.nextTicket + 1 },
                [.returned s'.nextTicket .flushRefused])
            ∧ Ending.flushRefused.answer = false
            ∧ ∀ c : Carrier, (Uplink.flush ⟨s', c⟩).2.2 = false) := by
  have hi := sound_run h
  refine ⟨closed_iff_mem h, (oneStop_run h).most, ?_, ?_⟩
  · intro front behind hq m hm
    have hstop : .stop ∈ s.queue := by rw [hq]; simp
    have hwait : s.waiting = [] := (List.append_eq_nil_iff.mp (hi.stopped (.inl hstop)).2).2
    have hmem : m ∈ s.waiting := by
      rw [waiting, messages, List.mem_filterMap, hq]
      exact ⟨.publish m, by simp [hm], rfl⟩
    rw [hwait] at hmem
    cases hmem
  · intro hc more out' s' hrun
    obtain ⟨hi', hsince⟩ := since_run hi hc hrun
    have hafter : Run (ofCapacity topic capacity) (as ++ more) (out ++ out') s' := h.append hrun
    have hc' := hsince.closed
    refine ⟨hc', hsince.queued, hsince.dropped, fun t => ?_, hsince.accepted, ?_, fun m => ?_,
      (Steps.refuse hc').step_eq, rfl, fun c => Uplink.flush_of_closed (u := ⟨s', c⟩) hc'⟩
    · rw [countedIn_run t hafter, countedIn_run t h]
      simp only [countedIn, hsince.dropped, Nat.add_assoc]
    · have hordered := ordered_run hafter
      rw [Ordered, hafter.settings.1, accepted_append, hsince.accepted, List.append_nil] at hordered
      exact ⟨_, hordered⟩
    · exact ⟨(Steps.barred m hc').step_eq, emit_of_closed hc' (hi'.barred hc') m, rfl, fun _ => rfl⟩

/-- Behind a close that gave up: emits, a flush, the end of the publish and another close. -/
def lateRun : List Action :=
  [.offer shortMessage, .beginFlush, .finish .published, .take, .beginClose, .offer shortMessage]

/-- Both messages of `lateRun` are dropped, although the close had given up. -/
theorem closed_for_good_lateRun :
    ∃ out' s', Run stalled lateRun out' s' ∧ s'.closed = true
      ∧ s'.stats = ⟨1, 1, 0, 2⟩ ∧ s'.stats.dropped = stalled.stats.dropped + emits lateRun
      ∧ accepted out' = [] := by
  have hbefore : Run (ofCapacity "t" 4) stalledRun
      [.accepted shortMessage, .handed "t" shortMessage.encode, .returned 0 .closeTimedOut] stalled :=
    run_of_exec rfl
  have hlate : Run stalled lateRun
      [.dropped shortMessage, .returned 1 .flushRefused, .finished .published,
        .returned 2 .closedBefore, .dropped shortMessage] _ := run_of_exec rfl
  obtain ⟨hclosed, -, hdropped, -, haccepted, -⟩ :=
    (closed_for_good hbefore).2.2.2 rfl _ _ _ hlate
  exact ⟨_, _, hlate, hclosed, rfl, hdropped, haccepted⟩

end Sink

end Herald.Remote
