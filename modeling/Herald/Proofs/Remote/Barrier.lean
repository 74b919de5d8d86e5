import Herald.Proofs.Remote.Closing
import Herald.Proofs.Remote.Order

/-!
# A flush is a barrier

When a flush returns true, every message that was in the queue before the flush
began has been handed to the transport and its outcome is counted, whatever got
in behind it, and whatever other flushes and closes did meanwhile.

The argument counts. A call that waits is owed the messages which were accepted
before it began (`Barrier`). As long as its marker is not in the queue they are
finished or pending. Once it is, they are finished, in the worker's hands or in
front of the marker; what stands behind it may be a later message, another marker
or a stop, and none of them matters. When the worker reaches the marker it is idle
and nothing stands in front, so what is owed is finished.

The worker finishes in the order in which the messages were accepted, so enough
of them finished means that these are among them.
-/

namespace Herald.Remote

/-- The outcome of a publish, if this is what the signal says. -/
def Signal.outcome? : Signal → Option Outcome
  | .finished o => some o
  | _ => none

/-- How the publishes ended, in order. -/
def outcomes (out : List Signal) : List Outcome := out.filterMap Signal.outcome?

@[simp] theorem outcomes_append (out out' : List Signal) :
    outcomes (out ++ out') = outcomes out ++ outcomes out' := List.filterMap_append

/--
The publishes that have ended, each with its outcome. The worker is in one publish
at a time, so the outcomes come in the order of the publishes.
-/
def concluded (out : List Signal) : List ((String × ByteArray) × Outcome) :=
  (handed out).zip (outcomes out)

/-- What stands in the queue in front of the marker with this ticket. -/
def beforeMarker (t : Nat) (q : List Command) : List Command := q.takeWhile (· ≠ .flush t)

theorem beforeMarker_of_notMem {t : Nat} {q : List Command} (h : .flush t ∉ q) :
    beforeMarker t q = q := by
  unfold beforeMarker
  rw [List.takeWhile_eq_self_iff]
  intro c hc
  have hne : c ≠ .flush t := fun he => h (he ▸ hc)
  simpa using hne

/-- Nothing in front of a marker is lost when something gets in at the end. -/
theorem length_beforeMarker_snoc (t : Nat) (q : List Command) (c : Command) :
    (messages (beforeMarker t q)).length ≤ (messages (beforeMarker t (q ++ [c]))).length := by
  have hbefore : beforeMarker t q <+: beforeMarker t (q ++ [c]) := by
    unfold beforeMarker
    rw [List.takeWhile_append]
    split
    case isTrue hall =>
      -- the marker is not there yet, so what stands in front is the whole queue
      rw [(List.takeWhile_prefix _).eq_of_length hall]
      exact List.prefix_append _ _
    case isFalse _ => exact List.prefix_rfl
  exact (hbefore.filterMap Command.message?).length_le

theorem beforeMarker_cons_of_ne {t : Nat} {c : Command} (h : c ≠ .flush t) (q : List Command) :
    beforeMarker t (c :: q) = c :: beforeMarker t q := by
  unfold beforeMarker
  rw [List.takeWhile_cons_of_pos (by simpa using h)]

namespace Sink

variable {s s' : Sink} {a : Action} {as : List Action} {out out' : List Signal} {n t : Nat}

/-! ## Publishes and their outcomes -/

/-- The outcomes are counted, and belong to all publishes but the one that goes on. -/
structure Paired (out : List Signal) (s : Sink) : Prop where
  published : (outcomes out).countP (· = .published) = s.stats.published
  failed : (outcomes out).countP (· ≠ .published) = s.stats.failed
  handed : (handed out).length = (outcomes out).length + s.worker.message?.toList.length

/-- A step that neither begins nor ends a publish. -/
theorem Paired.idle (h : Paired out s) (hh : Remote.handed out' = []) (ho : outcomes out' = [])
    (hp : s'.stats.published = s.stats.published) (hf : s'.stats.failed = s.stats.failed)
    (hw : s'.worker.message? = s.worker.message?) : Paired (out ++ out') s' where
  published := by rw [outcomes_append, ho, List.append_nil, hp, h.published]
  failed := by rw [outcomes_append, ho, List.append_nil, hf, h.failed]
  handed := by
    rw [handed_append, outcomes_append, hh, ho, List.append_nil, List.append_nil, hw, h.handed]

theorem paired_step (h : Paired out s) (hs : Steps s a s' out') : Paired (out ++ out') s' := by
  cases hs with
  | takeMessage m rest hw hq =>
      -- the worker was idle, so every publish so far has its outcome; this one has not
      have hidle := h.handed
      rw [hw, Worker.message?_idle, Option.toList_none, List.length_nil, Nat.add_zero] at hidle
      have hnone : outcomes [Signal.handed s.topic m.encode] = [] := rfl
      refine ⟨?_, ?_, ?_⟩
      · rw [outcomes_append, hnone, List.append_nil, h.published]
      · rw [outcomes_append, hnone, List.append_nil, h.failed]
      · rw [handed_append, outcomes_append, hnone, List.append_nil, List.length_append, hidle]
        rfl
  | finish m o hw =>
      have hbusy := h.handed
      rw [hw] at hbusy
      refine ⟨?_, ?_, ?_⟩
      · rw [outcomes_append, List.countP_append, h.published]
        cases o <;> rfl
      · rw [outcomes_append, List.countP_append, h.failed]
        cases o <;> rfl
      · rw [handed_append, outcomes_append, List.length_append, List.length_append, hbusy]
        rfl
  | reach u closing rest hw hq hcall => exact h.idle rfl rfl rfl rfl rfl
  | pass u rest hw hq hcall => exact h.idle rfl rfl rfl rfl rfl
  | takeStop rest hw hq => exact h.idle rfl rfl rfl rfl (by rw [hw]; rfl)
  | _ => exact h.idle rfl rfl rfl rfl rfl

theorem paired_run {topic : String} {capacity : Nat}
    (h : Run (ofCapacity topic capacity) as out s) : Paired out s := by
  induction h with
  | start => exact ⟨rfl, rfl, rfl⟩
  | next _ hs ih => exact paired_step ih (step_eq_some_iff.mp hs)

theorem Paired.map_fst_concluded (h : Paired out s) :
    (concluded out).map Prod.fst = (Remote.handed out).take (outcomes out).length := by
  have hle : (outcomes out).length ≤ (Remote.handed out).length := by
    have := h.handed
    omega
  unfold concluded
  rw [List.zip_eq_zip_take_min, Nat.min_eq_right hle, List.take_length, List.map_fst_zip]
  exact List.length_take_le _ _

theorem Paired.map_snd_concluded (h : Paired out s) :
    (concluded out).map Prod.snd = outcomes out := by
  refine List.map_snd_zip ?_
  have := h.handed
  omega

/-- How many outcomes have been counted. -/
def finished (s : Sink) : Nat := s.stats.published + s.stats.failed

theorem Paired.length_outcomes (h : Paired out s) : (outcomes out).length = s.finished := by
  have hsplit := List.length_eq_countP_add_countP (· = Outcome.published) (l := outcomes out)
  rw [h.published] at hsplit
  rw [hsplit, finished, ← h.failed]
  congr 1
  exact List.countP_congr fun o _ => by simp

/-! ## What a waiting call is owed -/

/-- How many messages are finished by the time a call in this phase gets through its marker. -/
def awaited (s : Sink) (t : Nat) : Phase → Nat
  | .entering => s.finished + s.pending.length
  | .waiting =>
    s.finished + s.worker.message?.toList.length + (messages (beforeMarker t s.queue)).length
  | .reached | .stopping | .joining => s.finished

/-- The call with this ticket, as long as it waits, does not get through before `n` messages. -/
structure Barrier (n t : Nat) (s : Sink) : Prop where
  given : t < s.nextTicket
  /-- The marker is put into the queue once. -/
  fresh : ∀ {b : Bool}, s.call? t = some ⟨t, b, .entering⟩ → .flush t ∉ s.queue
  owed : ∀ {b : Bool} {p : Phase}, s.call? t = some ⟨t, b, p⟩ → n ≤ s.awaited t p

/-- A step of somebody else, after which no fewer messages are ahead of the call. -/
theorem Barrier.keep (h : Barrier n t s) (hn : s.nextTicket ≤ s'.nextTicket)
    (hcall : ∀ {c : Call}, s'.call? t = some c → s.call? t = some c)
    (hqueue : ∀ {b : Bool}, s.call? t = some ⟨t, b, .entering⟩ →
      .flush t ∈ s'.queue → .flush t ∈ s.queue)
    (hawait : ∀ {b : Bool} {p : Phase}, s.call? t = some ⟨t, b, p⟩ →
      s.awaited t p ≤ s'.awaited t p) : Barrier n t s' where
  given := Nat.lt_of_lt_of_le h.given hn
  fresh hc hm := h.fresh (hcall hc) (hqueue (hcall hc) hm)
  owed hc := Nat.le_trans (h.owed (hcall hc)) (hawait (hcall hc))

/-- Flags, tickets and the other counts do not matter. -/
theorem Barrier.aside {closed : Bool} {k u : Nat} {st : Stats} (h : Barrier n t s)
    (hk : s.nextTicket ≤ k) (hst : st.published + st.failed = s.finished) :
    Barrier n t { s with closed := closed, nextTicket := k, uncounted := u, stats := st } := by
  refine h.keep hk id (fun _ => id) fun {b p} _ => ?_
  have hsame : finished { s with closed := closed, nextTicket := k, uncounted := u, stats := st }
      = s.finished := hst
  cases p <;> simp only [awaited, hsame] <;> exact Nat.le_refl _

/-- A call moves on. What is owed to it has to be there in the new phase. -/
theorem Barrier.advance {u : Nat} {b : Bool} {p q : Phase} (h : Barrier n t s)
    (hcall : s.call? u = some ⟨u, b, p⟩) (hq : q ≠ .entering)
    (howed : u = t → n ≤ s.awaited t q) : Barrier n t (s.advance u q) where
  given := h.given
  fresh {b'} hc := by
    rcases call?_advance_cases hcall hc with ⟨_, hc⟩ | ⟨_, he⟩
    · exact h.fresh hc
    · cases he
      exact absurd rfl hq
  owed {b' p'} hc := by
    rcases call?_advance_cases hcall hc with ⟨_, hc⟩ | ⟨rfl, he⟩
    · have := h.owed hc
      cases p' <;> exact this
    · cases he
      have := howed rfl
      cases q <;> exact this

theorem Barrier.dismiss (h : Barrier n t s) (u : Nat) (e : Ending) :
    Barrier n t (s.dismiss u e).1 := by
  refine h.keep (Nat.le_refl _) (fun hc => (call?_of_call?_dismiss hc).2) (fun _ => id)
    (fun {b p} _ => ?_)
  cases p <;> exact Nat.le_refl _

/-- A call returns: another one, or this one, and then what is owed to it is there or it says so. -/
theorem Barrier.leave (h : Barrier n t s) (u : Nat) (e : Ending)
    (hdue : u = t → e.answer = true → n ≤ s.finished) :
    Barrier n t (s.dismiss u e).1
      ∧ ∀ e', .returned t e' ∈ (s.dismiss u e).2 → e'.answer = true →
          n ≤ (s.dismiss u e).1.finished := by
  refine ⟨h.dismiss u e, fun e' he ht => ?_⟩
  obtain ⟨hu, rfl⟩ := Signal.returned.inj (List.mem_singleton.mp he)
  exact hdue hu.symm ht

/-- A marker or a stop goes to the end of the queue. -/
theorem Barrier.enqueue (h : Barrier n t s) {c : Command} (hc : c.message? = none)
    (hfresh : c = .flush t → ∀ b, s.call? t ≠ some ⟨t, b, .entering⟩) :
    Barrier n t (s.enqueue c) := by
  refine h.keep (Nat.le_refl _) id (fun {b} hcall hm => ?_) (fun {b p} _ => ?_)
  · rcases List.mem_append.mp hm with hm | hm
    · exact hm
    · exact absurd hcall (hfresh (List.mem_singleton.mp hm).symm b)
  · have hpending := pending_enqueue (s := s) hc
    have hlen := length_beforeMarker_snoc t s.queue c
    cases p <;> simp only [awaited, finished, hpending] <;>
      simp only [Sink.enqueue] <;> omega

theorem Barrier.enroll (h : Barrier n t s) (hi : s.Sound) (b : Bool) :
    Barrier n t (s.enroll b) := by
  refine h.keep (Nat.le_succ _) (fun hc => ?_) (fun _ => id) (fun {b' p} _ => ?_)
  · rw [call?_enroll s b t hi.call?_nextTicket, if_neg (Nat.ne_of_lt h.given)] at hc
    exact hc
  · cases p <;> exact Nat.le_refl _

/-- The worker takes another command than the marker, or a marker that is not waited for. -/
theorem Barrier.take (h : Barrier n t s) {c : Command} {rest : List Command} {w : Worker}
    (hw : s.worker = .idle) (hq : s.queue = c :: rest) (hm : w.message? = c.message?)
    (hc : c = .flush t → ∀ b, s.call? t ≠ some ⟨t, b, .waiting⟩) :
    Barrier n t { s with queue := rest, worker := w } := by
  refine h.keep (Nat.le_refl _) id (fun _ hmem => hq ▸ List.mem_cons_of_mem _ hmem)
    (fun {b p} hcall => ?_)
  have hpending : pending { s with queue := rest, worker := w } = s.pending := by
    rw [pending_of_idle hw hq, ← hm]
    rfl
  cases p with
  | entering => exact Nat.le_of_eq (congrArg (s.finished + ·.length) hpending.symm)
  | waiting =>
      -- the command goes from the front of the queue into the worker's hands
      have hne : c ≠ .flush t := fun he => hc he b hcall
      simp only [awaited, finished, hw, hq, hm, beforeMarker_cons_of_ne hne, messages,
        List.filterMap_cons, Worker.message?_idle, Option.toList_none, List.length_nil]
      cases c.message? with
      | none => exact Nat.le_refl _
      | some m =>
          simp only [Option.toList_some, List.length_cons, List.length_nil]
          omega
  | reached => exact Nat.le_refl _
  | stopping => exact Nat.le_refl _
  | joining => exact Nat.le_refl _

/-- **What is owed to a call is owed after every step, and is there when the call returns true.** -/
theorem barrier_step (hi : s.Sound) (h : Barrier n t s) (hs : Steps s a s' out) :
    Barrier n t s' ∧ ∀ e, .returned t e ∈ out → e.answer = true → n ≤ s'.finished := by
  have hne : t ≠ s.nextTicket := Nat.ne_of_lt h.given
  cases hs with
  | barred m hc => exact ⟨h.aside (Nat.le_refl _) rfl, by simp⟩
  | full m hc hr => exact ⟨h.aside (Nat.le_refl _) rfl, by simp⟩
  | accept m hc hr =>
      refine ⟨h.keep (Nat.le_refl _) id (fun _ hm => by simpa [Sink.enqueue] using hm) ?_,
        by simp⟩
      intro b p _
      have hlen := length_beforeMarker_snoc t s.queue (.publish m)
      cases p <;> simp only [awaited, finished, pending, waiting, Sink.enqueue, messages_append,
        List.length_append] <;> omega
  | count hu => exact ⟨h.aside (Nat.le_refl _) rfl, by simp⟩
  | refuse hc =>
      refine ⟨h.aside (Nat.le_succ _) rfl, fun e he _ => ?_⟩
      simp [hne] at he
  | beginFlush hc => exact ⟨h.enroll hi false, by simp⟩
  | again hu hc =>
      refine ⟨h.aside (Nat.le_succ _) rfl, fun e he _ => ?_⟩
      simp [hne] at he
  | beginClose hu hc =>
      have henrolled : Barrier n t (s.enroll true) := h.enroll hi true
      exact ⟨henrolled.aside (Nat.le_refl _) rfl, by simp⟩
  | mark u closing hcall hr hw =>
      -- the marker goes behind everything that the call has been owed so far
      have hmoved : Barrier n t (s.advance u .waiting) := by
        refine h.advance hcall (by simp) ?_
        rintro rfl
        have howed : n ≤ s.finished + s.pending.length := h.owed hcall
        rw [awaited, beforeMarker_of_notMem (h.fresh hcall)]
        rwa [pending, List.length_append, ← Nat.add_assoc] at howed
      refine ⟨hmoved.enqueue (c := .flush u) rfl ?_, by simp⟩
      intro he b hentering
      cases he
      rw [call?_advance, if_pos rfl, hcall] at hentering
      cases hentering
  | flushed u hcall =>
      refine h.leave u .flushed ?_
      rintro rfl -
      exact h.owed hcall
  | goOn u hcall =>
      refine ⟨h.advance hcall (by simp) ?_, by simp⟩
      rintro rfl
      exact h.owed (p := .reached) hcall
  | sendStop u closing hcall hr hw =>
      have hmoved : Barrier n t (s.advance u .joining) := by
        refine h.advance hcall (by simp) ?_
        rintro rfl
        exact h.owed (p := .stopping) hcall
      exact ⟨hmoved.enqueue (c := .stop) rfl (fun he => by cases he), by simp⟩
  | join u closing hcall hw =>
      refine h.leave u .closed ?_
      rintro rfl -
      exact h.owed hcall
  | giveUp u closing p hcall hp =>
      refine h.leave u _ fun _ ht => ?_
      cases closing <;> cases ht
  | giveUpStop u closing hcall => exact h.leave u .closeTimedOut fun _ ht => by cases ht
  | takeMessage m rest hw hq => exact ⟨h.take hw hq rfl (fun he => by cases he), by simp⟩
  | reach u closing rest hw hq hcall =>
      -- the worker is idle and nothing stands in front of the marker
      have hmoved : Barrier n t (s.advance u .reached) := by
        refine h.advance hcall (by simp) ?_
        rintro rfl
        have howed : n ≤ s.awaited u .waiting := h.owed hcall
        rw [awaited, hw, hq] at howed
        simpa [beforeMarker, awaited] using howed
      refine ⟨hmoved.take (c := .flush u) (w := s.worker) hw hq (by rw [hw]; rfl) ?_, by simp⟩
      intro he b hwaiting
      cases he
      rw [call?_advance, if_pos rfl, hcall] at hwaiting
      cases hwaiting
  | pass u rest hw hq hcall =>
      refine ⟨h.take (w := s.worker) hw hq (by rw [hw]; rfl) ?_, by simp⟩
      intro he b
      cases he
      exact hcall b
  | takeStop rest hw hq => exact ⟨h.take hw hq rfl (fun he => by cases he), by simp⟩
  | finish m o hw =>
      -- one more is finished, and one fewer in the worker's hands
      refine ⟨h.keep (Nat.le_refl _) id (fun _ => id) fun {b p} _ => ?_, by simp⟩
      have hone : finished { s with worker := .idle, stats := Stats.tally s.stats o }
          = s.finished + 1 := by
        cases o <;> simp only [finished, Stats.tally] <;> omega
      cases p <;> simp only [awaited, hone, pending, hw, Worker.message?_idle,
        Worker.message?_publishing, Option.toList_none, Option.toList_some, List.length_append,
        List.length_nil, List.length_singleton, waiting] <;> omega

theorem finished_step (hs : Steps s a s' out) : s.finished ≤ s'.finished := by
  cases hs with
  | finish m o hw => cases o <;> simp only [finished, Stats.tally] <;> omega
  | _ => exact Nat.le_refl _

/-- However a run goes on, what a call is owed is there when the call returns true. -/
theorem barrier_run {s₀ : Sink} (hi : s₀.Sound) (h : Barrier n t s₀) (hr : Run s₀ as out s) :
    s.Sound ∧ Barrier n t s
      ∧ ∀ e, .returned t e ∈ out → e.answer = true → n ≤ s.finished := by
  induction hr with
  | start => exact ⟨hi, h, by simp⟩
  | next _ hs ih =>
      obtain ⟨hsound, hbarrier, hdone⟩ := ih
      have hs' := step_eq_some_iff.mp hs
      obtain ⟨hbarrier', hdone'⟩ := barrier_step hsound hbarrier hs'
      refine ⟨sound_step hsound hs', hbarrier', fun e he ht => ?_⟩
      -- it has returned before, or does so in this step
      rcases List.mem_append.mp he with he | he
      · exact Nat.le_trans (hdone e he ht) (finished_step hs')
      · exact hdone' e he ht

/-! ## The flush as a whole -/

theorem length_accepted {topic : String} {capacity : Nat}
    (h : Run (ofCapacity topic capacity) as out s) :
    (accepted out).length = s.finished + s.pending.length := by
  have hp := paired_run h
  have hlen := congrArg List.length (ordered_run h)
  rw [List.length_append, List.length_map, List.length_map, hp.handed, hp.length_outcomes] at hlen
  rw [← hlen, pending, List.length_append, Nat.add_assoc]

/--
These messages have been handed over, in order, and the outcome of each of them is
among those that the sink has counted.
-/
def Settled (ms : List Message) (out : List Signal) (s : Sink) : Prop :=
  ms.map (Message.addressed s.topic) <+: (concluded out).map Prod.fst
    ∧ (concluded out).countP (fun c => c.2 = .published) = s.stats.published
    ∧ (concluded out).countP (fun c => c.2 ≠ .published) = s.stats.failed

/-- The messages that got in first are settled once as many are finished. -/
theorem settled_of_le {topic : String} {capacity : Nat}
    (h : Run (ofCapacity topic capacity) as (out ++ out') s')
    (hle : (accepted out).length ≤ s'.finished) : Settled (accepted out) (out ++ out') s' := by
  have hp := paired_run h
  have hsnd := hp.map_snd_concluded
  refine ⟨?_, ?_, ?_⟩
  · rw [hp.map_fst_concluded]
    -- both lists are prefixes of what was accepted in the end, so the lengths decide
    have hgot : (accepted out).map (Message.addressed s'.topic)
        <+: (accepted (out ++ out')).map (Message.addressed s'.topic) := by
      rw [accepted_append, List.map_append]
      exact List.prefix_append _ _
    have hended : (handed (out ++ out')).take (outcomes (out ++ out')).length
        <+: (accepted (out ++ out')).map (Message.addressed s'.topic) :=
      (List.take_prefix _ _).trans ⟨_, ordered_run h⟩
    refine List.prefix_of_prefix_length_le hgot hended ?_
    have hhanded := hp.handed
    have houtcomes := hp.length_outcomes
    rw [List.length_map, List.length_take]
    omega
  · rw [← hp.published, ← hsnd, List.countP_map]
    rfl
  · rw [← hp.failed, ← hsnd, List.countP_map]
    rfl

/-- A flush that has just begun is owed what got in before. -/
theorem barrier_beginFlush {topic : String} {capacity : Nat}
    (h : Run (ofCapacity topic capacity) as out s) (hs : Steps s .beginFlush s' out') :
    Barrier (accepted out).length s.nextTicket s'
      ∧ ∀ e, .returned s.nextTicket e ∈ out' → e.answer = false := by
  have hi := sound_run h
  have hnone := hi.call?_nextTicket
  cases hs with
  | refuse hc =>
      refine ⟨⟨Nat.lt_succ_self _, fun hcall => ?_, fun hcall => ?_⟩, fun e he => ?_⟩
      · exact absurd (hcall.symm.trans hnone) (by simp)
      · exact absurd (hcall.symm.trans hnone) (by simp)
      · simp only [List.mem_singleton, Signal.returned.injEq] at he
        rw [he.2]
        rfl
  | beginFlush hc =>
      refine ⟨⟨Nat.lt_succ_self _, fun _ hm => ?_, fun {b p} hcall => ?_⟩, by simp⟩
      · -- no marker bears the ticket that is given out now
        exact absurd (hi.markers hm) (Nat.lt_irrefl _)
      · rw [call?_enroll s false _ hnone, if_pos rfl] at hcall
        cases hcall
        have howed : (accepted out).length ≤ s.finished + s.pending.length :=
          Nat.le_of_eq (length_accepted h)
        exact howed

theorem settled_of_returned {topic : String} {capacity : Nat} {s₁ : Sink} {out₁ : List Signal}
    {as' : List Action} {e : Ending} (h : Run (ofCapacity topic capacity) as out s)
    (hbegin : s.step .beginFlush = some (s₁, out₁)) (hrun : Run s₁ as' out' s')
    (hret : .returned s.nextTicket e ∈ out₁ ++ out') (he : e.answer = true) :
    Settled (accepted out) (out ++ (out₁ ++ out')) s' := by
  obtain ⟨hbarrier, hrefused⟩ := barrier_beginFlush h (step_eq_some_iff.mp hbegin)
  have hafter : Run (ofCapacity topic capacity) (as ++ .beginFlush :: as')
      (out ++ (out₁ ++ out')) s' := h.append (.cons hbegin hrun)
  refine settled_of_le hafter ?_
  rcases List.mem_append.mp hret with hret | hret
  · exact absurd (he.symm.trans (hrefused e hret)) (by simp)
  · have hi := sound_step (sound_run h) (step_eq_some_iff.mp hbegin)
    exact (barrier_run hi hbarrier hrun).2.2 e hret he

end Sink

namespace Uplink

/-- The moves of a flush behind its first one. -/
def flushMoves (t : Nat) : List Action := [.mark t, .proceed t, .expire t]

theorem flush_eq (u : Uplink) :
    u.flush = ((u.turns (.beginFlush :: flushMoves u.sink.nextTicket)).1,
      (u.turns (.beginFlush :: flushMoves u.sink.nextTicket)).2,
      ((ending? u.sink.nextTicket (u.turns (.beginFlush :: flushMoves u.sink.nextTicket)).2).map
        Ending.answer).getD false) := by
  unfold flush flushMoves
  dsimp only

/-- A flush always gets as far as to begin, or is refused. -/
theorem exists_step_beginFlush (s : Sink) : ∃ s₁ out₁, s.step .beginFlush = some (s₁, out₁) := by
  cases hc : s.closed with
  | true => exact ⟨_, _, (Sink.Steps.refuse hc).step_eq⟩
  | false => exact ⟨_, _, (Sink.Steps.beginFlush hc).step_eq⟩

/-- A driven flush is a call that begins and then runs on; its answer is that of its return. -/
theorem exists_run_flush (u : Uplink) (ht : u.flush.2.2 = true) :
    ∃ s₁ out₁ as out' e, u.sink.step .beginFlush = some (s₁, out₁)
      ∧ Sink.Run s₁ as out' u.flush.1.sink ∧ u.flush.2.1 = out₁ ++ out'
      ∧ .returned u.sink.nextTicket e ∈ out₁ ++ out' ∧ e.answer = true := by
  obtain ⟨s₁, out₁, hbegin⟩ := exists_step_beginFlush u.sink
  obtain ⟨out', hout, as, hrun⟩ := leads_turns_cons hbegin (flushMoves u.sink.nextTicket)
  rw [flush_eq] at ht ⊢
  dsimp only at ht ⊢
  rw [hout] at ht ⊢
  cases hend : ending? u.sink.nextTicket (out₁ ++ out') with
  | none => rw [hend] at ht; cases ht
  | some e =>
      rw [hend] at ht
      exact ⟨s₁, out₁, as, out', e, hbegin, hrun, rfl, returned_of_ending? hend, ht⟩

end Uplink

namespace Sink

variable {s : Sink} {as : List Action} {out : List Signal}

/--
**A flush that returns true has waited for everything that got in before it.**

Take any run up to the moment when a flush begins, and any way on from there, with
whatever others do in between. If the flush has returned true, then all messages
that were accepted before it began have been handed over, in order, and the outcome
of each is counted as published or as failed. A flush of a driven sink is such a
call.
-/
theorem flush_true_settled {topic : String} {capacity : Nat}
    (h : Run (ofCapacity topic capacity) as out s) :
    (∀ s₁ out₁ as' out' s' e, s.step .beginFlush = some (s₁, out₁) → Run s₁ as' out' s' →
        .returned s.nextTicket e ∈ out₁ ++ out' → e.answer = true →
        Settled (accepted out) (out ++ (out₁ ++ out')) s')
      ∧ ∀ c : Carrier, (Uplink.flush ⟨s, c⟩).2.2 = true →
          Settled (accepted out) (out ++ (Uplink.flush ⟨s, c⟩).2.1) (Uplink.flush ⟨s, c⟩).1.sink := by
  refine ⟨fun s₁ out₁ as' out' s' e hbegin hrun hret he => ?_, fun c ht => ?_⟩
  · exact settled_of_returned h hbegin hrun hret he
  · obtain ⟨s₁, out₁, as', out', e, hbegin, hrun, hout, hret, he⟩ :=
      Uplink.exists_run_flush ⟨s, c⟩ ht
    rw [hout]
    exact settled_of_returned h hbegin hrun hret he

/-- What a flush leaves that has given up: a message and a stale marker. -/
def abandoned : Sink :=
  { topic := "t", capacity := 4, queue := [.publish shortMessage, .flush 0], nextTicket := 1
    stats := { queued := 1 } }

/--
A second flush has begun. A message and a close come after it, the first publish
breaks down, and the worker passes the stale marker before it reaches that of the flush.
-/
def overtakenRun : List Action :=
  [.offer shortMessage, .count, .beginClose, .mark 1, .take, .finish .panicked, .take, .mark 2,
   .take, .finish .published, .take, .proceed 1]

/-- What `overtakenRun` leaves: both messages are through, and the close still waits. -/
def overtaken : Sink :=
  { topic := "t", capacity := 4, queue := [.flush 2], closed := true
    calls := [⟨2, true, .waiting⟩], nextTicket := 3
    stats := { queued := 2, published := 1, failed := 1 } }

/-- The second flush returns true, and the message from before it has failed and is counted. -/
theorem flush_true_settled_overtakenRun :
    ∃ out', Run (ofCapacity "t" 4) [.offer shortMessage, .count, .beginFlush, .mark 0, .expire 0]
        [.accepted shortMessage, .returned 0 .flushTimedOut] abandoned
      ∧ abandoned.step .beginFlush = some (abandoned.enroll false, [])
      ∧ Run (abandoned.enroll false) overtakenRun out' overtaken
      ∧ .returned 1 .flushed ∈ out' ∧ Ending.flushed.answer = true
      ∧ Settled [shortMessage] ([.accepted shortMessage, .returned 0 .flushTimedOut] ++ out')
          overtaken := by
  have hbefore : Run (ofCapacity "t" 4) [.offer shortMessage, .count, .beginFlush, .mark 0, .expire 0]
      [.accepted shortMessage, .returned 0 .flushTimedOut] abandoned := run_of_exec rfl
  have hafter : Run (abandoned.enroll false) overtakenRun
      [.accepted shortMessage, .handed "t" shortMessage.encode, .finished .panicked,
        .handed "t" shortMessage.encode, .finished .published, .returned 1 .flushed] overtaken :=
    run_of_exec rfl
  refine ⟨_, hbefore, rfl, hafter, by simp, rfl, ?_⟩
  exact (flush_true_settled hbefore).1 _ _ _ _ _ .flushed rfl hafter (by simp [abandoned]) rfl

end Sink

end Herald.Remote
