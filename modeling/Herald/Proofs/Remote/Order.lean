import Herald.Proofs.Remote.Sound

/-!
# First in, first out, exactly once

What the worker hands to the transport is, at any moment, the beginning of what
got into the queue. The statement behind it is an equation: the payloads handed
over, followed by those of the messages that still wait, are the payloads of all
messages that got in. No outcome of a publish occurs in it, so a publish that
fails or breaks down has no influence on what is handed over next.

Markers do not occur in it either. The worker gets past each of them in one step,
whether somebody waits for it or not, and it ends at a stop only.
-/

namespace Herald.Remote

/-- The message that got in, if this is what the signal says. -/
def Signal.accepted? : Signal → Option Message
  | .accepted m => some m
  | _ => none

/-- The topic and the payload of a publish, if this is what the signal says. -/
def Signal.handed? : Signal → Option (String × ByteArray)
  | .handed topic payload => some (topic, payload)
  | _ => none

/-- The messages that got into the queue, in order. -/
def accepted (out : List Signal) : List Message := out.filterMap Signal.accepted?

/-- What the transport was called with, in order. -/
def handed (out : List Signal) : List (String × ByteArray) := out.filterMap Signal.handed?

@[simp] theorem accepted_append (out out' : List Signal) :
    accepted (out ++ out') = accepted out ++ accepted out' := List.filterMap_append

@[simp] theorem handed_append (out out' : List Signal) :
    handed (out ++ out') = handed out ++ handed out' := List.filterMap_append

/-- What the transport is to be called with for a message. -/
def Message.addressed (topic : String) (m : Message) : String × ByteArray := (topic, m.encode)

namespace Sink

variable {s s' : Sink} {a : Action} {as : List Action} {out out' : List Signal}

/-- What was handed over and what still waits are, together, what got in. -/
def Ordered (out : List Signal) (s : Sink) : Prop :=
  handed out ++ s.waiting.map (Message.addressed s.topic)
    = (accepted out).map (Message.addressed s.topic)

/-- A step that hands nothing over and lets nothing in. -/
theorem ordered_idle (h : Ordered out s) (hh : handed out' = []) (ha : accepted out' = [])
    (ht : s'.topic = s.topic) (hw : s'.waiting = s.waiting) : Ordered (out ++ out') s' := by
  unfold Ordered at *
  rw [handed_append, accepted_append, hh, ha, ht, hw, List.append_nil, List.append_nil]
  exact h

theorem waiting_enqueue {c : Command} (hc : c.message? = none) :
    (s.enqueue c).waiting = s.waiting := by
  simp [waiting, enqueue, messages, hc]

/-- **The order is kept by every step.** -/
theorem ordered_step (h : Ordered out s) (hs : Steps s a s' out') : Ordered (out ++ out') s' := by
  cases hs with
  | barred m hc => exact ordered_idle h rfl rfl rfl rfl
  | full m hc hr => exact ordered_idle h rfl rfl rfl rfl
  | accept m hc hr =>
      -- the message goes to the end of both sides
      unfold Ordered at *
      have hw : waiting { s.enqueue (.publish m) with uncounted := s.uncounted + 1 }
          = s.waiting ++ [m] := by
        simp [waiting, enqueue]
      rw [handed_append, accepted_append, hw, List.map_append, List.map_append,
        show handed [Signal.accepted m] = [] from rfl,
        show accepted [Signal.accepted m] = [m] from rfl, List.append_nil, ← List.append_assoc]
      exact congrArg (· ++ _) h
  | count hu => exact ordered_idle h rfl rfl rfl rfl
  | refuse hc => exact ordered_idle h rfl rfl rfl rfl
  | beginFlush hc => exact ordered_idle h rfl rfl rfl rfl
  | again hu hc => exact ordered_idle h rfl rfl rfl rfl
  | beginClose hu hc => exact ordered_idle h rfl rfl rfl rfl
  | mark t closing hcall hr hw =>
      exact ordered_idle h rfl rfl rfl (waiting_enqueue (c := .flush t) rfl)
  | flushed t hcall => exact ordered_idle h rfl rfl rfl rfl
  | goOn t hcall => exact ordered_idle h rfl rfl rfl rfl
  | sendStop t closing hcall hr hw =>
      exact ordered_idle h rfl rfl rfl (waiting_enqueue (c := .stop) rfl)
  | join t closing hcall hw => exact ordered_idle h rfl rfl rfl rfl
  | giveUp t closing p hcall hp => exact ordered_idle h rfl rfl rfl rfl
  | giveUpStop t closing hcall => exact ordered_idle h rfl rfl rfl rfl
  | takeMessage m rest hw hq =>
      -- the message that waited longest is the next one handed over
      unfold Ordered at *
      have hwait : s.waiting = m :: messages rest := by rw [waiting, hq, messages_publish]
      rw [hwait, List.map_cons] at h
      rw [handed_append, accepted_append,
        show handed [Signal.handed s.topic m.encode] = [Message.addressed s.topic m] from rfl,
        show accepted [Signal.handed s.topic m.encode] = [] from rfl, List.append_nil,
        List.append_assoc]
      exact h
  | reach t closing rest hw hq hcall =>
      exact ordered_idle h rfl rfl rfl (by rw [waiting, waiting, hq]; rfl)
  | pass t rest hw hq hcall =>
      exact ordered_idle h rfl rfl rfl (by rw [waiting, waiting, hq]; rfl)
  | takeStop rest hw hq =>
      exact ordered_idle h rfl rfl rfl (by rw [waiting, waiting, hq]; rfl)
  | finish m o hw => exact ordered_idle h rfl rfl rfl rfl

/-- The order is kept at every moment of every run. -/
theorem ordered_run {topic : String} {capacity : Nat}
    (h : Run (ofCapacity topic capacity) as out s) : Ordered out s := by
  induction h with
  | start => rfl
  | next _ hs ih => exact ordered_step ih (step_eq_some_iff.mp hs)

/-! ## What the worker can do next -/

/-- A marker takes one step, whoever waits for it. -/
theorem step_take_marker {t : Nat} {rest : List Command} (hw : s.worker = .idle)
    (hq : s.queue = .flush t :: rest) :
    ∃ s', s.step .take = some (s', []) ∧ s'.worker = .idle ∧ s'.queue = rest := by
  refine ⟨_, step_take_flush hw hq, ?_⟩
  unfold reach
  split <;> exact ⟨hw, rfl⟩

/-- A publish may end in any way; the worker is free again and the queue as it was. -/
theorem step_finish {m : Message} (hw : s.worker = .publishing m) (o : Outcome) :
    ∃ s', s.step (.finish o) = some (s', [.finished o]) ∧ s'.worker = .idle
      ∧ s'.queue = s.queue :=
  ⟨_, (Steps.finish m o hw).step_eq, rfl, rfl⟩

/-- Only a stop ends the worker. -/
theorem worker_stopped_step (hs : Steps s a s' out) (hw : s.worker ≠ .stopped)
    (hw' : s'.worker = .stopped) : ∃ rest, s.queue = .stop :: rest := by
  cases hs with
  | takeStop rest _ hq => exact ⟨rest, hq⟩
  | takeMessage m rest _ _ => cases hw'
  | finish m o _ => cases hw'
  | _ => exact absurd hw' hw

/--
**Hand-over is first in, first out, and exactly once.**

What the transport has been called with is the beginning of what got into the
queue, encoded and with the sink's own topic; the rest of it is what still
waits. However a publish ends, the worker goes on with the queue as it was; a
marker never holds it up; and only a stop ends it, with no message left behind.
-/
theorem handed_prefix_accepted {topic : String} {capacity : Nat}
    (h : Run (ofCapacity topic capacity) as out s) :
    handed out <+: (accepted out).map (Message.addressed topic)
      ∧ handed out ++ s.waiting.map (Message.addressed topic)
          = (accepted out).map (Message.addressed topic)
      ∧ (∀ m rest, s.worker = .idle → s.queue = .publish m :: rest →
          ∃ s', s.step .take = some (s', [.handed topic m.encode]) ∧ s'.queue = rest)
      ∧ (∀ m o, s.worker = .publishing m →
          ∃ s', s.step (.finish o) = some (s', [.finished o]) ∧ s'.worker = .idle
            ∧ s'.queue = s.queue)
      ∧ (∀ t rest, s.worker = .idle → s.queue = .flush t :: rest →
          ∃ s', s.step .take = some (s', []) ∧ s'.worker = .idle ∧ s'.queue = rest)
      ∧ ∀ a s' out', s.step a = some (s', out') → s.worker ≠ .stopped → s'.worker = .stopped →
          (∃ rest, s.queue = .stop :: rest) ∧ s.waiting = [] := by
  have ht : s.topic = topic := h.settings.1
  have ho := ordered_run h
  unfold Ordered at ho
  rw [ht] at ho
  refine ⟨⟨_, ho⟩, ho, ?_, fun m o hw => step_finish hw o, fun t rest => step_take_marker, ?_⟩
  · intro m rest hw hq
    exact ⟨_, ht ▸ (Steps.takeMessage m rest hw hq).step_eq, rfl⟩
  · intro a s' out' hs hw hw'
    obtain ⟨rest, hq⟩ := worker_stopped_step (step_eq_some_iff.mp hs) hw hw'
    have hp := ((sound_run h).stopped (.inl (hq ▸ List.mem_cons_self))).2
    exact ⟨⟨rest, hq⟩, (List.append_eq_nil_iff.mp hp).2⟩

/-- A run in which a flush gives up, its marker stays, and the first publish breaks down. -/
def staleMarkerRun : List Action :=
  [.offer shortMessage, .count, .beginFlush, .mark 0, .expire 0, .take, .finish .panicked, .take,
   .offer shortMessage, .count, .take]

/-- Both messages of `staleMarkerRun` are handed over, once each. -/
theorem handed_prefix_accepted_staleMarkerRun :
    ∃ out s, Run (ofCapacity "t" 2) staleMarkerRun out s ∧ (handed out).length = 2
      ∧ handed out <+: (accepted out).map (Message.addressed "t") :=
  ⟨_, _, run_of_exec rfl, rfl,
    (handed_prefix_accepted
      (show Run (ofCapacity "t" 2) staleMarkerRun _ _ from run_of_exec rfl)).1⟩

end Sink

end Herald.Remote
