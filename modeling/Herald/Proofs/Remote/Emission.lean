import Herald.Proofs.Remote.Accounting
import Herald.Proofs.Remote.Driven
import Herald.Proofs.Remote.Order

/-!
# What is offered to the queue

An emit offers one message and is through with it before anything else happens:
the message is accepted or dropped, and its count is not left half-way. So a run of
emits offers exactly the messages that it was given, in order, and it touches
neither the worker nor what was handed over.

Of the messages offered in any run those that got in are a subsequence, and as many
are missing from it as the sink counted dropped. A sink that dropped nothing has
accepted them all.
-/

namespace Herald.Remote

/-- The message that a logging call came with, if the signal speaks of one. -/
def Signal.offered? : Signal → Option Message
  | .accepted m | .dropped m => some m
  | _ => none

/-- The messages that logging calls came with, in order. -/
def offered (out : List Signal) : List Message := out.filterMap Signal.offered?

@[simp] theorem offered_append (out out' : List Signal) :
    offered (out ++ out') = offered out ++ offered out' := List.filterMap_append

/-- Of what was offered some got in, in the same order. -/
theorem accepted_sublist_offered (out : List Signal) : (accepted out).Sublist (offered out) := by
  induction out with
  | nil => exact .slnil
  | cons signal out ih =>
      cases signal with
      | accepted m => exact ih.cons_cons m
      | dropped m => exact ih.cons m
      | handed topic payload => exact ih
      | finished o => exact ih
      | returned t e => exact ih

namespace Sink

variable {s s' : Sink} {a : Action} {as : List Action} {out : List Signal}

/-! ## What did not get in -/

theorem length_offered_step (hs : Steps s a s' out) :
    (offered out).length + s.stats.dropped = (accepted out).length + s'.stats.dropped := by
  cases hs with
  | barred m hc => exact Nat.add_comm 1 _ |>.trans (Nat.zero_add _).symm
  | full m hc hr => exact Nat.add_comm 1 _ |>.trans (Nat.zero_add _).symm
  | finish m o hw => cases o <;> rfl
  | _ => rfl

/-- Every message that was offered is accepted or counted as dropped. -/
theorem length_offered_run {topic : String} {capacity : Nat}
    (h : Run (ofCapacity topic capacity) as out s) :
    (offered out).length = (accepted out).length + s.stats.dropped := by
  induction h with
  | start => rfl
  | next _ hs ih =>
      have := length_offered_step (step_eq_some_iff.mp hs)
      rw [offered_append, accepted_append, List.length_append, List.length_append]
      omega

/-- **Where nothing was dropped, everything got in.** -/
theorem accepted_eq_offered {topic : String} {capacity : Nat}
    (h : Run (ofCapacity topic capacity) as out s) (hd : s.stats.dropped = 0) :
    accepted out = offered out := by
  have hlen := length_offered_run h
  exact (accepted_sublist_offered out).eq_of_length (by omega)

/-! ## Steps that are no part of an emit -/

theorem offered_step (hs : Steps s a s' out) (ha : a.isOffer = false) : offered out = [] := by
  cases hs with
  | barred m hc => cases ha
  | full m hc hr => cases ha
  | accept m hc hr => cases ha
  | _ => rfl

theorem uncounted_step (hs : Steps s a s' out) (ha : a.isOffer = false) (hc : a ≠ .count) :
    s'.uncounted = s.uncounted := by
  cases hs with
  | accept m hc hr => cases ha
  | count hu => exact absurd rfl hc
  | _ => rfl

/-- A run in which nothing was offered is one without emits, half-way ones included. -/
theorem no_emit_of_offered_nil (h : Run s as out s') (hu : s.uncounted = 0)
    (ho : offered out = []) :
    s'.uncounted = 0 ∧ ∀ a ∈ as, a.isOffer = false ∧ a ≠ .count := by
  induction h with
  | start => exact ⟨hu, fun _ ha => absurd ha List.not_mem_nil⟩
  | @next as out out' s₁ s₂ a _ hs ih =>
      rw [offered_append, List.append_eq_nil_iff] at ho
      obtain ⟨hzero, hall⟩ := ih ho.1
      have hsteps := step_eq_some_iff.mp hs
      have ha : a.isOffer = false ∧ a ≠ .count := by
        cases hsteps with
        | barred m hc => cases ho.2
        | full m hc hr => cases ho.2
        | accept m hc hr => cases ho.2
        | count hpos => omega
        | _ => exact ⟨rfl, nofun⟩
      refine ⟨(uncounted_step hsteps ha.1 ha.2).trans hzero, ?_⟩
      rw [List.forall_mem_append, List.forall_mem_singleton]
      exact ⟨hall, ha⟩

/-- Only the worker's own steps move it and hand something over. -/
theorem worker_step (hs : Steps s a s' out) (ha : a ≠ .take) (hf : ∀ o, a ≠ .finish o) :
    s'.worker = s.worker ∧ handed out = [] := by
  cases hs with
  | takeMessage m rest hw hq => exact absurd rfl ha
  | reach t closing rest hw hq hcall => exact absurd rfl ha
  | pass t rest hw hq hcall => exact absurd rfl ha
  | takeStop rest hw hq => exact absurd rfl ha
  | finish m o hw => exact absurd rfl (hf o)
  | _ => exact ⟨rfl, rfl⟩

/-- An idle worker that takes a command hands over the message that it then is busy with. -/
theorem take_step (hs : Steps s .take s' out) :
    s.worker = .idle
      ∧ handed out = (s'.worker.message?.map (Message.addressed s'.topic)).toList := by
  have hnone : ∀ topic : String, s.worker = .idle →
      (s.worker.message?.map (Message.addressed topic)).toList = [] := by
    intro topic hw
    rw [hw]
    rfl
  cases hs with
  | takeMessage m rest hw hq => exact ⟨hw, rfl⟩
  | reach t closing rest hw hq hcall => exact ⟨hw, (hnone s.topic hw).symm⟩
  | pass t rest hw hq hcall => exact ⟨hw, (hnone s.topic hw).symm⟩
  | takeStop rest hw hq => exact ⟨hw, rfl⟩

/-! ## Emits -/

/-- What emits of these messages have done, whatever became of the messages. -/
structure Emitted (s : Sink) (ms : List Message) (s' : Sink) (out : List Signal) : Prop where
  leads : Leads s out s'
  offered : offered out = ms
  handed : handed out = []
  worker : s'.worker = s.worker
  uncounted : s'.uncounted = 0

theorem Emitted.trans {s'' : Sink} {ms ms' : List Message} {out' : List Signal}
    (h : Emitted s ms s' out) (h' : Emitted s' ms' s'' out') :
    Emitted s (ms ++ ms') s'' (out ++ out') where
  leads := h.leads.trans h'.leads
  offered := by rw [offered_append, h.offered, h'.offered]
  handed := by rw [handed_append, h.handed, h'.handed]; rfl
  worker := h'.worker.trans h.worker
  uncounted := h'.uncounted

/-- One emit. -/
theorem emitted_emit (hu : s.uncounted = 0) (m : Message) :
    Emitted s [m] (s.emit m).1 (s.emit m).2 := by
  refine ⟨leads_emit s m, ?_, ?_, ?_, ?_⟩
  all_goals
    unfold emit attempt step
    by_cases hc : s.closed = true
    · simp [hc, drop, hu, Signal.offered?, Signal.handed?, Remote.offered, Remote.handed]
    · by_cases hr : s.hasRoom = true
      · simp [hc, hr, enqueue, hu, Signal.offered?, Signal.handed?, Remote.offered, Remote.handed]
      · simp [hc, hr, drop, hu, Signal.offered?, Signal.handed?, Remote.offered, Remote.handed]

/-- Messages are emitted one after the other. -/
def emitAll (s : Sink) : List Message → Sink × List Signal
  | [] => (s, [])
  | m :: rest =>
    let (s, first) := s.emit m
    let (s, more) := emitAll s rest
    (s, first ++ more)

theorem emitAll_append (s : Sink) (ms ms' : List Message) :
    s.emitAll (ms ++ ms')
      = (((s.emitAll ms).1.emitAll ms').1,
          (s.emitAll ms).2 ++ ((s.emitAll ms).1.emitAll ms').2) := by
  induction ms generalizing s with
  | nil => rfl
  | cons m ms ih => simp only [List.cons_append, emitAll, ih, List.append_assoc]

/-- **Emits offer exactly their messages, in order.** -/
theorem emitted_emitAll (hu : s.uncounted = 0) (ms : List Message) :
    Emitted s ms (s.emitAll ms).1 (s.emitAll ms).2 := by
  induction ms generalizing s with
  | nil => exact ⟨.refl s, rfl, rfl, rfl, hu⟩
  | cons m ms ih =>
      have hone := emitted_emit hu m
      exact hone.trans (ih hone.uncounted)

theorem offered_attempt (s : Sink) (ha : a.isOffer = false) :
    offered (s.attempt a).2 = [] := by
  unfold attempt
  cases hstep : s.step a with
  | none => rfl
  | some r => exact offered_step (steps_of_step_eq hstep) ha

end Sink

namespace Uplink

variable {u u' : Uplink} {out : List Signal}

/-! ## A driven sink between emits -/

theorem offered_work? (h : u.work? = some (u', out)) : offered out = [] := by
  unfold work? at h
  split at h
  · -- the transport returns from a publish that it held
    obtain ⟨o, -, he⟩ := Option.map_eq_some_iff.mp h
    cases he
    exact Sink.offered_attempt u.sink rfl
  · split at h
    case h_1 => cases h
    case h_2 sink signals hstep =>
      have htake : offered signals = [] := Sink.offered_step (Sink.steps_of_step_eq hstep) rfl
      split at h
      · dsimp only at h
        split at h
        · cases h
          exact htake
        · cases h
          rw [offered_append, htake]
          exact Sink.offered_attempt sink rfl
      · cases h
        exact htake

theorem offered_run (u : Uplink) (moves : Nat) : offered (u.run moves).2 = [] := by
  induction moves generalizing u with
  | zero => rfl
  | succ moves ih =>
      unfold run
      split
      case h_1 => rfl
      case h_2 u' signals hw =>
        dsimp only
        rw [offered_append, offered_work? hw, ih, List.append_nil]

theorem offered_turns (u : Uplink) {as : List Action} (h : ∀ a ∈ as, a.isOffer = false) :
    offered (u.turns as).2 = [] := by
  induction as generalizing u with
  | nil => rfl
  | cons a as ih =>
      rw [List.forall_mem_cons] at h
      have hturn : offered (u.turn a).2 = [] := by
        rw [turn, attempt]
        dsimp only
        rw [offered_append, Sink.offered_attempt u.sink h.1, settle, offered_run, List.append_nil]
      rw [turns_cons, offered_append, hturn, ih _ h.2, List.append_nil]

theorem offered_close (u : Uplink) : offered u.close.2.1 = [] := by
  rw [close_eq]
  dsimp only
  refine offered_turns u fun a ha => ?_
  simp only [closeMoves, List.mem_cons, List.not_mem_nil, or_false] at ha
  rcases ha with rfl | rfl | rfl | rfl | rfl | rfl <;> rfl

end Uplink

end Herald.Remote
