import Herald.Manager.Shipping
import Herald.Proofs.Remote.Accounting
import Herald.Proofs.Remote.Driven

/-!
# What a close that returns true has seen to

A close that waits for the end of the worker finds everything handed over: the
worker ends at the stop, and the stop goes into the queue only when no message is
left (`Sound.stopped`).

But not every close waits. The flag that bars further messages is set before the
queue is known to drain, and a close that finds it set returns true at once. If
the close that set it gave up, or is still waiting, the answer is the same, and
then messages may well be pending. `close_true_iff_drained` says exactly when.
-/

namespace Herald.Remote

/-- The endings of a close. -/
def Ending.ofClose : Ending → Bool
  | .closed | .closeTimedOut | .closedBefore => true
  | .flushed | .flushTimedOut | .flushRefused => false

namespace Sink

variable {s s' s₀ : Sink} {a : Action} {as : List Action} {out out' : List Signal}

/-- The worker does not come back. -/
theorem worker_stays_stopped (hs : Steps s a s' out) (hw : s.worker = .stopped) :
    s'.worker = .stopped := by
  cases hs with
  | takeMessage m rest hi _ => rw [hi] at hw; cases hw
  | finish m o hp => rw [hp] at hw; cases hw
  | takeStop rest _ _ => rfl
  | _ => exact hw

/-- After a close that got through the worker has ended. -/
theorem stopped_of_returned_closed {t : Nat} (h : Run s₀ as out s)
    (hret : .returned t .closed ∈ out) : s.worker = .stopped := by
  induction h with
  | start => cases hret
  | next _ hs ih =>
      have hs' := step_eq_some_iff.mp hs
      rcases List.mem_append.mp hret with hret | hret
      · exact worker_stays_stopped hs' (ih hret)
      · cases hs' with
        | join u closing hcall hw => exact hw
        | giveUp u closing p hcall hp => cases closing <;> simp at hret
        | _ => simp at hret

/-- A worker that has ended left nothing behind. -/
theorem drained_of_stopped (hi : s.Sound) (hb : Balanced as s) (hw : s.worker = .stopped) :
    s.Drained := by
  obtain ⟨hc, hp⟩ := hi.stopped (.inr hw)
  exact drained_of_pending_nil hb hp (hi.barred hc)

/-- A close returns true after the end of the worker, or at once because the sink is closed. -/
theorem close_true_cases {t : Nat} {e : Ending} (hs : Steps s a s' out)
    (hret : .returned t e ∈ out) (he : e.ofClose = true) (ht : e.answer = true) :
    s'.worker = .stopped ∧ a ≠ .beginClose
      ∨ a = .beginClose ∧ s.closed = true ∧ s' = { s with nextTicket := s.nextTicket + 1 } := by
  cases hs with
  | again hu hc => exact .inr ⟨rfl, hc, rfl⟩
  | join u closing hcall hw => exact .inl ⟨hw, by simp⟩
  | refuse hc => simp at hret; simp [hret.2, Ending.answer] at ht
  | flushed u hcall => simp at hret; simp [hret.2, Ending.ofClose] at he
  | giveUp u closing p hcall hp =>
      cases closing <;> simp at hret <;> simp [hret.2, Ending.answer] at ht
  | giveUpStop u closing hcall => simp at hret; simp [hret.2, Ending.answer] at ht
  | _ => simp at hret

/-! ## A close from its first step to its return -/

/-- A ticket that was given to a close. -/
structure Closes (t : Nat) (s : Sink) : Prop where
  given : t < s.nextTicket
  closing : ∀ {c : Call}, s.call? t = some c → c.closing = true

/-- The call of a close returns as a close. -/
theorem closes_step {t : Nat} (hi : s.Sound) (h : Closes t s) (hs : Steps s a s' out) :
    Closes t s' ∧ ∀ e, .returned t e ∈ out → e = .closed ∨ e = .closeTimedOut := by
  have hne : t ≠ s.nextTicket := Nat.ne_of_lt h.given
  have hadvance : ∀ (r : Sink) (u : Nat) (p : Phase), (∀ v, r.call? v = s.call? v) →
      r.nextTicket = s.nextTicket → Closes t (r.advance u p) := by
    intro r u p hr hn
    refine ⟨hn ▸ h.given, fun {c} hc => ?_⟩
    rw [call?_advance, hr] at hc
    split at hc
    · obtain ⟨c', hc', he⟩ := Option.map_eq_some_iff.mp hc
      subst he
      exact h.closing (c := c') hc'
    · exact h.closing hc
  have hdismiss : ∀ (u : Nat) (e : Ending), Closes t (s.dismiss u e).1 := by
    intro u e
    exact ⟨h.given, fun hc => h.closing (call?_of_call?_dismiss hc).2⟩
  have henroll : ∀ b : Bool, Closes t (s.enroll b) := by
    intro b
    refine ⟨Nat.lt_succ_of_lt h.given, fun {c} hc => ?_⟩
    rw [call?_enroll s b t hi.call?_nextTicket, if_neg hne] at hc
    exact h.closing hc
  cases hs with
  | barred m hc => exact ⟨⟨h.given, h.closing⟩, by simp⟩
  | full m hc hr => exact ⟨⟨h.given, h.closing⟩, by simp⟩
  | accept m hc hr => exact ⟨⟨h.given, h.closing⟩, by simp⟩
  | count hu => exact ⟨⟨h.given, h.closing⟩, by simp⟩
  | refuse hc =>
      exact ⟨⟨Nat.lt_succ_of_lt h.given, h.closing⟩, fun e he => by simp [hne] at he⟩
  | beginFlush hc => exact ⟨henroll false, by simp⟩
  | again hu hc => exact ⟨⟨Nat.lt_succ_of_lt h.given, h.closing⟩, fun e he => by simp [hne] at he⟩
  | beginClose hu hc => exact ⟨⟨(henroll true).given, (henroll true).closing⟩, by simp⟩
  | mark u closing hcall hr hw => exact ⟨hadvance _ u _ (fun _ => rfl) rfl, by simp⟩
  | flushed u hcall =>
      refine ⟨hdismiss u _, fun e he => ?_⟩
      simp only [List.mem_singleton, Signal.returned.injEq] at he
      exact absurd (h.closing (he.1 ▸ hcall)) Bool.false_ne_true
  | goOn u hcall => exact ⟨hadvance s u _ (fun _ => rfl) rfl, by simp⟩
  | sendStop u closing hcall hr hw => exact ⟨hadvance _ u _ (fun _ => rfl) rfl, by simp⟩
  | join u closing hcall hw =>
      refine ⟨hdismiss u _, fun e he => .inl ?_⟩
      simp only [List.mem_singleton, Signal.returned.injEq] at he
      exact he.2
  | giveUp u closing p hcall hp =>
      refine ⟨hdismiss u _, fun e he => .inr ?_⟩
      simp only [List.mem_singleton, Signal.returned.injEq] at he
      obtain rfl : closing = true := h.closing (he.1 ▸ hcall)
      exact he.2
  | giveUpStop u closing hcall =>
      refine ⟨hdismiss u _, fun e he => .inr ?_⟩
      simp only [List.mem_singleton, Signal.returned.injEq] at he
      exact he.2
  | takeMessage m rest hw hq => exact ⟨⟨h.given, h.closing⟩, by simp⟩
  | reach u closing rest hw hq hcall => exact ⟨hadvance _ u _ (fun _ => rfl) rfl, by simp⟩
  | pass u rest hw hq hcall => exact ⟨⟨h.given, h.closing⟩, by simp⟩
  | takeStop rest hw hq => exact ⟨⟨h.given, h.closing⟩, by simp⟩
  | finish m o hw => exact ⟨⟨h.given, h.closing⟩, by simp⟩

/-- From then on, however the run goes on. -/
theorem closes_run {t : Nat} (hi : s₀.Sound) (h : Closes t s₀) (hr : Run s₀ as out s) :
    s.Sound ∧ Closes t s ∧ ∀ e, .returned t e ∈ out → e = .closed ∨ e = .closeTimedOut := by
  induction hr with
  | start => exact ⟨hi, h, by simp⟩
  | next _ hs ih =>
      obtain ⟨hsound, hcloses, hret⟩ := ih
      have hs' := step_eq_some_iff.mp hs
      obtain ⟨hcloses', hret'⟩ := closes_step hsound hcloses hs'
      refine ⟨sound_step hsound hs', hcloses', fun e he => ?_⟩
      rcases List.mem_append.mp he with he | he
      · exact hret e he
      · exact hret' e he

end Sink

end Herald.Remote

namespace Herald.Manager

/-- A shutdown closes the remote sink, and its answer is that of the close. -/
theorem shutdown_eq {m : Manager} {s : Remote.Sink} (hm : m.remote = some s) (c : Remote.Carrier) :
    (m.shutdown c).1.remote = some (Remote.Uplink.close ⟨s, c⟩).1.sink
      ∧ (m.shutdown c).2.2.2 = (Remote.Uplink.close ⟨s, c⟩).2.2 := by
  unfold shutdown atRemote
  rw [hm]
  dsimp only
  generalize Remote.Uplink.close ⟨s, c⟩ = r
  exact ⟨rfl, rfl⟩

end Herald.Manager

namespace Herald.Remote

namespace Uplink

open Herald.Remote.Sink (Leads Closes)

variable {u : Uplink} {s : Sink} {out : List Signal}

/-- Turns whose first move is known: what follows is a run from there. -/
theorem leads_turns_cons {a : Action} (hs : u.sink.step a = some (s, out)) (as : List Action) :
    ∃ out', (u.turns (a :: as)).2 = out ++ out' ∧ Leads s out' (u.turns (a :: as)).1.sink := by
  have hfirst : u.attempt a = ({ u with sink := s }, out) := by
    unfold attempt Sink.attempt
    rw [hs]
    rfl
  have hturn : u.turn a
      = ((settle { u with sink := s }).1, out ++ (settle { u with sink := s }).2) := by
    unfold turn
    rw [hfirst]
  rw [turns_cons, hturn]
  exact ⟨_, List.append_assoc _ _ _, (leads_settle { u with sink := s }).trans (leads_turns _ as)⟩

theorem leads_close (u : Uplink) : Leads u.sink u.close.2.1 u.close.1.sink := by
  rw [close_eq]
  dsimp only
  exact leads_turns u _

/-- A driven close of a closed sink returns true. -/
theorem close_of_closed (hc : u.sink.closed = true) (hu : u.sink.uncounted = 0) :
    u.close.2.2 = true := by
  obtain ⟨out', hout, _⟩ := leads_turns_cons (Sink.Steps.again hu hc).step_eq
    (closeMoves u.sink.nextTicket)
  rw [close_eq, hout]
  simp [ending?, Ending.answer]

/-- A driven close of an open sink that returns true found the end of the worker. -/
theorem stopped_of_close (hi : u.sink.Sound) (ho : u.sink.closed = false)
    (hu : u.sink.uncounted = 0) (ht : u.close.2.2 = true) : u.close.1.sink.worker = .stopped := by
  have hbegin := Sink.Steps.beginClose hu ho
  obtain ⟨out', hout, as, hrun⟩ := leads_turns_cons hbegin.step_eq
    (closeMoves u.sink.nextTicket)
  have hcloses : Closes u.sink.nextTicket (Sink.enroll { u.sink with closed := true } true) := by
    refine ⟨Nat.lt_succ_self _, fun {c} hc => ?_⟩
    rw [Sink.call?_enroll { u.sink with closed := true } true _ hi.call?_nextTicket,
      if_pos rfl] at hc
    cases hc
    rfl
  rw [close_eq] at ht ⊢
  dsimp only at ht ⊢
  rw [hout, List.nil_append] at ht
  -- the answer is that of a signal, and the signal is that of a close
  cases he : ending? u.sink.nextTicket out' with
  | none => rw [he] at ht; cases ht
  | some e =>
      rw [he] at ht
      have hret := returned_of_ending? he
      rcases (Sink.closes_run (Sink.sound_step hi hbegin) hcloses hrun).2.2 e hret with rfl | rfl
      · exact Sink.stopped_of_returned_closed hrun hret
      · cases ht

end Uplink

namespace Sink

variable {s s' : Sink} {a : Action} {as : List Action} {out : List Signal}

/--
**What the answer of a close is worth.**

A close that returns true leaves nothing behind, except in exactly one case: the
sink was closed already when it began, and messages were still pending. In that
case it returns true all the same, and at once. Once some close has got through
to the end of the worker the case can no longer arise. The shutdown of a manager
is such a close.
-/
theorem close_true_iff_drained {topic : String} {capacity : Nat}
    (h : Run (ofCapacity topic capacity) as out s) :
    (∀ a s' out' t e, s.step a = some (s', out') → .returned t e ∈ out' →
        e.ofClose = true → e.answer = true →
        (s'.Drained ↔ ¬(a = .beginClose ∧ s.closed = true ∧ ¬s.Drained)))
      ∧ (s.closed = true →
          s.step .beginClose = some ({ s with nextTicket := s.nextTicket + 1 },
            [.returned s.nextTicket .closedBefore]))
      ∧ (∀ t, .returned t .closed ∈ out → s.Drained)
      ∧ ∀ (m : Manager) (c : Carrier), m.remote = some s → s.uncounted = 0 →
          (s.closed = true → (m.shutdown c).2.2.2 = true)
            ∧ (s.closed = false → (m.shutdown c).2.2.2 = true →
                ∃ s', (m.shutdown c).1.remote = some s' ∧ s'.Drained) := by
  have hi := sound_run h
  have hb := balanced_run h
  refine ⟨?_, ?_, ?_, ?_⟩
  · intro a s' out' t e hs hret he ht
    have hs' := step_eq_some_iff.mp hs
    rcases close_true_cases hs' hret he ht with ⟨hw, ha⟩ | ⟨rfl, hc, rfl⟩
    · have hd : s'.Drained := drained_of_stopped (sound_step hi hs') (balanced_step hb hs') hw
      exact iff_of_true hd fun hcase => ha hcase.1
    · -- nothing has moved but the ticket
      have hsame : Drained { s with nextTicket := s.nextTicket + 1 } ↔ s.Drained := Iff.rfl
      rw [hsame]
      exact ⟨fun hd hcase => hcase.2.2 hd, fun hn =>
        Decidable.byContradiction fun hd => hn ⟨rfl, hc, hd⟩⟩
  · intro hc
    exact (Steps.again (hi.barred hc) hc).step_eq
  · intro t hret
    exact drained_of_stopped hi hb (stopped_of_returned_closed h hret)
  · intro m c hm hu
    obtain ⟨hremote, hanswer⟩ := Manager.shutdown_eq hm c
    rw [hremote, hanswer]
    refine ⟨fun hc => Uplink.close_of_closed (u := ⟨s, c⟩) hc hu, fun ho ht => ?_⟩
    have hw := Uplink.stopped_of_close (u := ⟨s, c⟩) hi ho hu ht
    obtain ⟨as', hrun⟩ := h.leads (Uplink.leads_close ⟨s, c⟩)
    exact ⟨_, rfl, drained_of_stopped (sound_run hrun) (balanced_run hrun) hw⟩

/-- A run in which a close gives up on a transport that does not return. -/
def stalledRun : List Action := [.offer shortMessage, .count, .take, .beginClose, .mark 0, .expire 0]

/-- What `stalledRun` leaves: a closed sink whose message is still with the transport. -/
def stalled : Sink :=
  { topic := "t", capacity := 4, queue := [.flush 0], worker := .publishing shortMessage
    closed := true, nextTicket := 1, stats := { queued := 1 } }

/-- After `stalledRun` a second close returns true with the message still pending. -/
theorem close_true_iff_drained_stalledRun :
    Run (ofCapacity "t" 4) stalledRun
        [.accepted shortMessage, .handed "t" shortMessage.encode, .returned 0 .closeTimedOut] stalled
      ∧ stalled.step .beginClose
          = some ({ stalled with nextTicket := 2 }, [.returned 1 .closedBefore])
      ∧ Ending.closedBefore.answer = true ∧ ¬Drained { stalled with nextTicket := 2 } := by
  have hrun : Run (ofCapacity "t" 4) stalledRun
      [.accepted shortMessage, .handed "t" shortMessage.encode, .returned 0 .closeTimedOut]
      stalled := run_of_exec rfl
  refine ⟨hrun, rfl, rfl, fun hd => ?_⟩
  exact ((close_true_iff_drained hrun).1 .beginClose _ _ 1 .closedBefore rfl
    List.mem_cons_self rfl rfl).mp hd ⟨rfl, rfl, by decide⟩

end Sink

end Herald.Remote
