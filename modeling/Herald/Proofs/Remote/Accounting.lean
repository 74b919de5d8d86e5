import Herald.Manager.Logging
import Herald.Proofs.Remote.Sound

/-!
# The books of the remote sink

Every emit ends up in exactly one of two counts, and every message that got in is
somewhere: counted as published or failed, still waiting, or in the hands of the
worker. Both equations hold at every moment of every run once the emits that are
half-way are added in; the queue never outgrows its capacity; and the counters
of the metrics, which are fed by the signals, say the same as the sink's own.

At the stop nothing is left over, and that is the one place where the books need
`Sound`.
-/

namespace Herald.Remote

/-- Whether an action begins an emit. -/
def Action.isOffer : Action → Bool
  | .offer _ => true
  | _ => false

/-- How many emits were begun. -/
def emits (as : List Action) : Nat := as.countP Action.isOffer

theorem emits_snoc (as : List Action) (a : Action) :
    emits (as ++ [a]) = emits as + if a.isOffer then 1 else 0 := by
  simp [emits, List.countP_append, List.countP_cons]

namespace Sink

variable {s s' : Sink} {a : Action} {as : List Action} {out : List Signal}

/-- The books after these actions. -/
structure Balanced (as : List Action) (s : Sink) : Prop where
  /-- An emit is counted as queued or as dropped, or its count is still to come. -/
  emitted : emits as = s.stats.queued + s.uncounted + s.stats.dropped
  /-- A message that got in is counted as finished, or is still pending. -/
  pending : s.stats.queued + s.uncounted = s.stats.published + s.stats.failed + s.pending.length
  /-- The queue holds no more than it may. -/
  room : s.queue.length ≤ s.capacity

theorem balanced_init (topic : String) (capacity : Nat) :
    Balanced [] (ofCapacity topic capacity) where
  emitted := rfl
  pending := rfl
  room := Nat.zero_le _

/-- A step that moves neither counts nor messages leaves the books alone. -/
theorem balanced_idle (h : Balanced as s) (ha : a.isOffer = false) (hst : s'.stats = s.stats)
    (hu : s'.uncounted = s.uncounted) (hp : s'.pending = s.pending)
    (hroom : s'.queue.length ≤ s'.capacity) : Balanced (as ++ [a]) s' where
  emitted := by rw [emits_snoc, ha, hst, hu]; exact h.emitted
  pending := by rw [hst, hu, hp]; exact h.pending
  room := hroom

/-- A dropped message is counted at once. -/
theorem balanced_drop (h : Balanced as s) (m : Message) :
    Balanced (as ++ [.offer m]) (s.drop m).1 where
  emitted := by
    have := h.emitted
    rw [emits_snoc]
    simp only [Action.isOffer, drop, if_true]
    omega
  pending := h.pending
  room := h.room

theorem length_of_hasRoom (hr : s.hasRoom = true) (c : Command) :
    (s.enqueue c).queue.length ≤ s.capacity := by
  have hlt : s.queue.length < s.capacity := by simpa [hasRoom] using hr
  simpa [enqueue] using Nat.succ_le_of_lt hlt

/-- A marker or a stop takes a place in the queue and counts as nothing. -/
theorem balanced_enqueue {c : Command} (h : Balanced as s) (ha : a.isOffer = false)
    (hc : c.message? = none) (hr : s.hasRoom = true) : Balanced (as ++ [a]) (s.enqueue c) :=
  balanced_idle h ha rfl rfl (pending_enqueue hc) (length_of_hasRoom hr c)

theorem balanced_advance (h : Balanced as s) (t : Nat) (p : Phase) : Balanced as (s.advance t p) :=
  ⟨h.emitted, h.pending, h.room⟩

/-- The worker takes the front of the queue: what was waiting may now be in its hands. -/
theorem balanced_take {c : Command} {rest : List Command} {w : Worker} (h : Balanced as s)
    (hw : s.worker = .idle) (hq : s.queue = c :: rest) (hc : w.message? = c.message?) :
    Balanced (as ++ [.take]) { s with queue := rest, worker := w } := by
  refine balanced_idle h rfl rfl rfl ?_ ?_
  · rw [pending_of_idle hw hq, ← hc]; rfl
  · have := h.room
    rw [hq, List.length_cons] at this
    exact Nat.le_of_succ_le this

/-- **The books balance after every step.** -/
theorem balanced_step (h : Balanced as s) (hs : Steps s a s' out) : Balanced (as ++ [a]) s' := by
  cases hs with
  | barred m hc => exact balanced_drop h m
  | full m hc hr => exact balanced_drop h m
  | accept m hc hr =>
      constructor
      · have := h.emitted
        rw [emits_snoc]
        simp only [Action.isOffer, enqueue, if_true]
        omega
      · have := h.pending
        simp only [Sink.pending, waiting, enqueue, messages_append, messages_publish, messages_nil,
          List.length_append, List.length_cons, List.length_nil] at this ⊢
        omega
      · exact length_of_hasRoom hr _
  | count hu =>
      have h₁ := h.emitted
      have h₂ := h.pending
      constructor
      · rw [emits_snoc]
        simp only [Action.isOffer, Bool.false_eq_true, if_false]
        omega
      · simp only [Sink.pending, waiting] at h₂ ⊢
        omega
      · exact h.room
  | refuse hc => exact balanced_idle h rfl rfl rfl rfl h.room
  | beginFlush hc => exact balanced_idle h rfl rfl rfl rfl h.room
  | again hu hc => exact balanced_idle h rfl rfl rfl rfl h.room
  | beginClose hu hc => exact balanced_idle h rfl rfl rfl rfl h.room
  | mark t closing hcall hr hw =>
      exact balanced_advance (balanced_enqueue h rfl rfl hr) t .waiting
  | flushed t hcall => exact balanced_idle h rfl rfl rfl rfl h.room
  | goOn t hcall => exact balanced_idle h rfl rfl rfl rfl h.room
  | sendStop t closing hcall hr hw =>
      exact balanced_advance (balanced_enqueue h rfl rfl hr) t .joining
  | join t closing hcall hw => exact balanced_idle h rfl rfl rfl rfl h.room
  | giveUp t closing p hcall hp => exact balanced_idle h rfl rfl rfl rfl h.room
  | giveUpStop t closing hcall => exact balanced_idle h rfl rfl rfl rfl h.room
  | takeMessage m rest hw hq => exact balanced_take h hw hq rfl
  | reach t closing rest hw hq hcall =>
      have htail : Balanced (as ++ [.take]) { s with queue := rest } :=
        balanced_take (w := s.worker) h hw hq (by rw [hw]; rfl)
      exact balanced_advance htail t .reached
  | pass t rest hw hq hcall => exact balanced_take (w := s.worker) h hw hq (by rw [hw]; rfl)
  | takeStop rest hw hq => exact balanced_take h hw hq rfl
  | finish m o hw =>
      have h₂ := h.pending
      simp only [Sink.pending, waiting, hw, Worker.message?_publishing, Option.toList_some,
        List.cons_append, List.nil_append, List.length_cons] at h₂
      constructor
      · rw [emits_snoc]
        cases o <;> exact h.emitted
      · cases o <;>
          simp only [Sink.pending, waiting, Stats.tally, Worker.message?_idle, Option.toList_none,
            List.nil_append] <;> omega
      · exact h.room

/-- The books balance at every moment of every run. -/
theorem balanced_run {topic : String} {capacity : Nat}
    (h : Run (ofCapacity topic capacity) as out s) : Balanced as s := by
  induction h with
  | start => exact balanced_init topic capacity
  | next _ hs ih => exact balanced_step ih (step_eq_some_iff.mp hs)

/-! ## The same counts in the metrics -/

/-- The remote counters of metrics with the outcomes of a sink added. -/
def countedIn (st : Stats) (t : Metrics) : Metrics :=
  { t with
    published := t.published + st.published
    failed := t.failed + st.failed
    dropped := t.dropped + st.dropped }

/-- Whatever a step lets be seen is counted in the metrics as it is in the sink. -/
theorem countedIn_step (t : Metrics) (hs : Steps s a s' out) :
    out.foldl Manager.countSignal (countedIn s.stats t) = countedIn s'.stats t := by
  cases hs with
  | finish m o hw => cases o <;> rfl
  | _ => rfl

/-- The metrics have every outcome of the run, and each one once. -/
theorem countedIn_run {topic : String} {capacity : Nat} (t : Metrics)
    (h : Run (ofCapacity topic capacity) as out s) :
    out.foldl Manager.countSignal t = countedIn s.stats t := by
  induction h with
  | start => rfl
  | next _ hs ih =>
      rw [List.foldl_append, ih]
      exact countedIn_step t (step_eq_some_iff.mp hs)

/-! ## The accounts as a whole -/

/-- Nothing is pending and nothing half-way: then all that was queued is finished. -/
theorem drained_of_pending_nil (h : Balanced as s) (hp : s.pending = []) (hu : s.uncounted = 0) :
    s.Drained := by
  refine ⟨hp, hu, ?_⟩
  have := h.pending
  rw [hp, hu] at this
  exact this

theorem length_pending (s : Sink) :
    s.pending.length = s.waiting.length + if s.worker.message?.isSome then 1 else 0 := by
  unfold Sink.pending
  cases s.worker.message? <;> simp [Nat.add_comm]

/--
**The accounts of the sink balance at every moment of every run.**

Where no emit is half-way, the emits are the queued and the dropped ones, and
the queued messages are those published, those failed, those that wait, and the
one that the worker may hold. The queue keeps within its capacity, the worker
finds the stop only behind all messages, after it nothing is left, and metrics
of this sink alone show the sink's own counts.
-/
theorem accounts_balance {topic : String} {capacity : Nat}
    (h : Run (ofCapacity topic capacity) as out s) :
    (s.uncounted = 0 →
      emits as = s.stats.queued + s.stats.dropped
        ∧ s.stats.queued = s.stats.published + s.stats.failed + s.waiting.length
            + if s.worker.message?.isSome then 1 else 0)
      ∧ s.queue.length ≤ max 1 capacity
      ∧ (∀ rest, s.worker = .idle → s.queue = .stop :: rest → s.waiting = [])
      ∧ (s.worker = .stopped → s.stats.queued = s.stats.published + s.stats.failed)
      ∧ ∀ t : Metrics, t.published = 0 → t.failed = 0 → t.dropped = 0 →
          (out.foldl Manager.countSignal t).published = s.stats.published
            ∧ (out.foldl Manager.countSignal t).failed = s.stats.failed
            ∧ (out.foldl Manager.countSignal t).dropped = s.stats.dropped := by
  have hb := balanced_run h
  have hi := sound_run h
  refine ⟨fun hu => ⟨?_, ?_⟩, ?_, ?_, ?_, ?_⟩
  · have := hb.emitted
    omega
  · have := hb.pending
    rw [length_pending] at this
    omega
  · have hcap : s.capacity = max capacity 1 := h.settings.2
    rw [Nat.max_comm, ← hcap]
    exact hb.room
  · intro rest _ hq
    have hp := (hi.stopped (.inl (hq ▸ List.mem_cons_self))).2
    exact (List.append_eq_nil_iff.mp hp).2
  · intro hw
    obtain ⟨hc, hp⟩ := hi.stopped (.inr hw)
    exact (drained_of_pending_nil hb hp (hi.barred hc)).2.2
  · intro t h₁ h₂ h₃
    rw [countedIn_run t h]
    simp [countedIn, h₁, h₂, h₃]

/-- A sink for one command, whose transport breaks down and then refuses, closed in the end. -/
def brokenRun : List Action :=
  [.offer shortMessage, .count, .take, .offer shortMessage, .count, .offer shortMessage,
   .beginFlush, .expire 0, .finish .panicked, .take, .finish (.failed (.io "gone")),
   .beginClose, .mark 1, .take, .proceed 1, .sendStop 1, .take, .join 1, .offer shortMessage]

/-- Two of four messages get in, and both fail. -/
theorem accounts_balance_brokenRun :
    ∃ out s, Run (ofCapacity "t" 0) brokenRun out s ∧ s.stats = ⟨2, 0, 2, 2⟩
      ∧ s.worker = .stopped ∧ s.stats.queued = s.stats.published + s.stats.failed
      ∧ emits brokenRun = s.stats.queued + s.stats.dropped := by
  refine ⟨_, _, run_of_exec rfl, rfl, rfl, ?_, ?_⟩
  · exact (accounts_balance
      (show Run (ofCapacity "t" 0) brokenRun _ _ from run_of_exec rfl)).2.2.2.1 rfl
  · exact ((accounts_balance
      (show Run (ofCapacity "t" 0) brokenRun _ _ from run_of_exec rfl)).1 rfl).1

end Sink

end Herald.Remote
