import Mathlib.Data.List.TakeWhile
import Herald.Proofs.Remote.Step

/-!
# Nothing gets in behind a close

The one invariant that every statement about closing rests on. A close bars
further messages before it puts its marker into the queue, so from that moment
on no message stands behind the marker; hence nothing is left of the messages
once the worker has reached it, and the stop goes into a queue without messages.

The subtle part is that a close may give up at any point and leave its marker
behind. Then its call is gone, and with it every claim that the invariant makes
about the marker.

Each operation of the sink keeps the invariant under a condition of its own;
`sound_step` only puts these together.
-/

namespace Herald.Remote

theorem messages_fromMarker_append {t : Nat} {q : List Command} {c : Command}
    (h : messages (fromMarker t q) = []) (hc : c.message? = none) :
    messages (fromMarker t (q ++ [c])) = [] := by
  unfold fromMarker at *
  rw [List.dropWhile_append]
  split
  · rw [List.dropWhile_cons]
    split <;> simp [messages, hc]
  · rw [messages_append, h]
    simp [messages, hc]

theorem messages_fromMarker_tail {t : Nat} {q : List Command} {c : Command}
    (h : messages (fromMarker t (c :: q)) = []) : messages (fromMarker t q) = [] := by
  unfold fromMarker at *
  rw [List.dropWhile_cons] at h
  split at h
  · exact h
  · -- the marker itself was in front, so there is no message in the whole queue
    have hq : messages q = [] := by
      unfold messages at h ⊢
      rw [List.filterMap_eq_nil_iff] at h ⊢
      exact fun x hx => h x (List.mem_cons_of_mem _ hx)
    unfold messages at hq ⊢
    rw [List.filterMap_eq_nil_iff] at hq ⊢
    exact fun x hx => hq x (List.dropWhile_subset _ hx)

theorem messages_fromMarker_of_notMem {t : Nat} {q : List Command} (h : .flush t ∉ q) :
    messages (fromMarker t q) = [] := by
  have hnil : fromMarker t q = [] := by
    unfold fromMarker
    rw [List.dropWhile_eq_nil_iff]
    intro c hc
    have hne : c ≠ .flush t := fun he => h (he ▸ hc)
    simpa using hne
  rw [hnil, messages_nil]

/-- The phases of a call whose marker the worker has reached. -/
def Phase.isThrough : Phase → Bool
  | .entering | .waiting => false
  | .reached | .stopping | .joining => true

namespace Sink

variable {s s' : Sink} {a : Action} {out : List Signal}

/-- What holds of a sink at any time. -/
structure Sound (s : Sink) : Prop where
  /-- Calls have tickets that were given out. -/
  calls : ∀ {t : Nat} {c : Call}, s.call? t = some c → t < s.nextTicket
  /-- Markers have tickets that were given out. -/
  markers : ∀ {t : Nat}, .flush t ∈ s.queue → t < s.nextTicket
  /-- No emit is half-way in a closed sink. -/
  barred : s.closed = true → s.uncounted = 0
  /-- Where a close is under way the sink is closed. -/
  closing : ∀ {t : Nat} {p : Phase}, s.call? t = some ⟨t, true, p⟩ → s.closed = true
  /-- Only a close goes beyond its marker. -/
  beyond : ∀ {t : Nat} {b : Bool} {p : Phase}, s.call? t = some ⟨t, b, p⟩ →
    p = .stopping ∨ p = .joining → b = true
  /-- No message stands behind the marker of a close that still goes on. -/
  behind : ∀ {t : Nat} {p : Phase}, s.call? t = some ⟨t, true, p⟩ →
    messages (fromMarker t s.queue) = []
  /-- Once the worker has reached that marker there are no messages at all. -/
  through : ∀ {t : Nat} {p : Phase}, s.call? t = some ⟨t, true, p⟩ → p.isThrough = true →
    s.pending = []
  /-- Nor are there any once the stop has been sent. -/
  stopped : .stop ∈ s.queue ∨ s.worker = .stopped → s.closed = true ∧ s.pending = []

theorem sound_ofCapacity (topic : String) (capacity : Nat) : Sound (ofCapacity topic capacity) where
  calls h := by simp [ofCapacity, call?] at h
  markers h := by simp [ofCapacity] at h
  barred _ := rfl
  closing h := by simp [ofCapacity, call?] at h
  beyond h := by simp [ofCapacity, call?] at h
  behind h := by simp [ofCapacity, call?] at h
  through h := by simp [ofCapacity, call?] at h
  stopped h := by simp [ofCapacity] at h

/-- The next ticket belongs to nobody. -/
theorem Sound.call?_nextTicket (h : s.Sound) : s.call? s.nextTicket = none := by
  cases hc : s.call? s.nextTicket with
  | none => rfl
  | some c => exact absurd (h.calls hc) (Nat.lt_irrefl _)

/-! ## What each operation owes -/

/-- Counting is free, as long as a closed sink has nothing half-way. -/
theorem sound_counts {n : Nat} {st : Stats} (h : s.Sound) (hn : s.closed = true → n = 0) :
    Sound { s with uncounted := n, stats := st } where
  calls := h.calls
  markers := h.markers
  barred := hn
  closing := h.closing
  beyond := h.beyond
  behind := h.behind
  through := h.through
  stopped := h.stopped

/-- A ticket may be used up for nothing. -/
theorem sound_skipTicket (h : s.Sound) : Sound { s with nextTicket := s.nextTicket + 1 } where
  calls hc := Nat.lt_succ_of_lt (h.calls hc)
  markers hm := Nat.lt_succ_of_lt (h.markers hm)
  barred := h.barred
  closing := h.closing
  beyond := h.beyond
  behind := h.behind
  through := h.through
  stopped := h.stopped

/-- A message gets in only while the sink is open, where the rest of the invariant is idle. -/
theorem sound_accept (h : s.Sound) (m : Message) (n : Nat) (ho : s.closed = false) :
    Sound { s.enqueue (.publish m) with uncounted := n } where
  calls := h.calls
  markers hm := h.markers (by simpa [enqueue] using hm)
  barred hc := absurd (ho.symm.trans hc) Bool.false_ne_true
  closing := h.closing
  beyond := h.beyond
  behind hc := absurd (ho.symm.trans (h.closing hc)) Bool.false_ne_true
  through hc := absurd (ho.symm.trans (h.closing hc)) Bool.false_ne_true
  stopped hs := by
    have hs' : .stop ∈ s.queue ∨ s.worker = .stopped := by simpa [enqueue] using hs
    exact absurd (ho.symm.trans (h.stopped hs').1) Bool.false_ne_true

theorem pending_enqueue {c : Command} (hc : c.message? = none) :
    (s.enqueue c).pending = s.pending := by
  simp [pending, waiting, enqueue, messages, hc]

/-- A marker or a stop goes to the end; a stop only where no messages are left. -/
theorem sound_enqueue {c : Command} (h : s.Sound) (hc : c.message? = none)
    (hm : ∀ t, c = .flush t → t < s.nextTicket)
    (hs : c = .stop → s.closed = true ∧ s.pending = []) : Sound (s.enqueue c) where
  calls := h.calls
  markers ht := by
    rcases List.mem_append.mp ht with ht | ht
    · exact h.markers ht
    · exact hm _ (List.mem_singleton.mp ht).symm
  barred := h.barred
  closing := h.closing
  beyond := h.beyond
  behind hcall := messages_fromMarker_append (h.behind hcall) hc
  through hcall hp := (pending_enqueue hc).trans (h.through hcall hp)
  stopped hst := by
    rw [pending_enqueue hc]
    rcases hst with hst | hst
    · rcases List.mem_append.mp hst with hst | hst
      · exact h.stopped (.inl hst)
      · exact hs (List.mem_singleton.mp hst).symm
    · exact h.stopped (.inr hst)

/-- A call moves on; a close gets through only where no messages are left. -/
theorem sound_advance {t : Nat} {b : Bool} {p q : Phase} (h : s.Sound)
    (hcall : s.call? t = some ⟨t, b, p⟩) (hb : q = .stopping ∨ q = .joining → b = true)
    (hq : b = true → q.isThrough = true → s.pending = []) : Sound (s.advance t q) := by
  constructor
  · intro u c hu
    rcases call?_advance_cases hcall hu with ⟨_, hu⟩ | ⟨rfl, _⟩
    · exact h.calls hu
    · exact h.calls hcall
  · exact h.markers
  · exact h.barred
  · intro u p' hu
    rcases call?_advance_cases hcall hu with ⟨_, hu⟩ | ⟨rfl, he⟩
    · exact h.closing hu
    · cases he; exact h.closing hcall
  · intro u b' p' hu hp
    rcases call?_advance_cases hcall hu with ⟨_, hu⟩ | ⟨rfl, he⟩
    · exact h.beyond hu hp
    · cases he; exact hb hp
  · intro u p' hu
    rcases call?_advance_cases hcall hu with ⟨_, hu⟩ | ⟨rfl, he⟩
    · exact h.behind hu
    · cases he; exact h.behind hcall
  · intro u p' hu hp
    rcases call?_advance_cases hcall hu with ⟨_, hu⟩ | ⟨rfl, he⟩
    · exact h.through hu hp
    · cases he; exact hq rfl hp
  · exact h.stopped

/-- A call that returns takes its part of the invariant with it. -/
theorem sound_dismiss (h : s.Sound) (t : Nat) (e : Ending) : Sound (s.dismiss t e).1 := by
  have key : ∀ {u : Nat} {c : Call}, (s.dismiss t e).1.call? u = some c → s.call? u = some c :=
    fun hu => (call?_of_call?_dismiss hu).2
  constructor
  · intro u c hu; exact h.calls (key hu)
  · exact h.markers
  · exact h.barred
  · intro u p hu; exact h.closing (key hu)
  · intro u b p hu; exact h.beyond (key hu)
  · intro u p hu; exact h.behind (key hu)
  · intro u p hu; exact h.through (key hu)
  · exact h.stopped

/-- A new call has no marker yet; a close is one only in a closed sink. -/
theorem sound_enroll (h : s.Sound) (b : Bool) (hb : b = true → s.closed = true) :
    Sound (s.enroll b) := by
  have key : ∀ {u : Nat} {c : Call}, (s.enroll b).call? u = some c →
      s.call? u = some c ∨ u = s.nextTicket ∧ c = ⟨u, b, .entering⟩ :=
    call?_enroll_cases h.call?_nextTicket
  constructor
  · intro u c hu
    rcases key hu with hu | ⟨rfl, _⟩
    · exact Nat.lt_succ_of_lt (h.calls hu)
    · exact Nat.lt_succ_self _
  · intro u hu; exact Nat.lt_succ_of_lt (h.markers hu)
  · exact h.barred
  · intro u p hu
    rcases key hu with hu | ⟨rfl, he⟩
    · exact h.closing hu
    · cases he; exact hb rfl
  · intro u b' p hu hp
    rcases key hu with hu | ⟨rfl, he⟩
    · exact h.beyond hu hp
    · cases he; simp at hp
  · intro u p hu
    rcases key hu with hu | ⟨rfl, _⟩
    · exact h.behind hu
    · exact messages_fromMarker_of_notMem fun hm => Nat.lt_irrefl _ (h.markers hm)
  · intro u p hu hp
    rcases key hu with hu | ⟨rfl, he⟩
    · exact h.through hu hp
    · cases he; simp [Phase.isThrough] at hp
  · exact h.stopped

/-- The worker takes the front of the queue, and no message gets lost over it. -/
theorem sound_take {c : Command} {rest : List Command} {w : Worker} (h : s.Sound)
    (hq : s.queue = c :: rest) (hw : w = .stopped → c = .stop)
    (hp : w.message?.toList ++ messages rest = s.pending) :
    Sound { s with queue := rest, worker := w } where
  calls := h.calls
  markers hm := h.markers (hq ▸ List.mem_cons_of_mem _ hm)
  barred := h.barred
  closing := h.closing
  beyond := h.beyond
  behind hcall := messages_fromMarker_tail (c := c) (hq ▸ h.behind hcall)
  through hcall ht := hp.trans (h.through hcall ht)
  stopped hs := by
    have hs' : .stop ∈ s.queue := by
      rw [hq]
      rcases hs with hs | hs
      · exact List.mem_cons_of_mem _ hs
      · rw [hw hs]; exact List.mem_cons_self
    exact ⟨(h.stopped (.inl hs')).1, hp.trans (h.stopped (.inl hs')).2⟩

/-- The worker is done with its message. -/
theorem sound_finish {m : Message} {st : Stats} (h : s.Sound) (hw : s.worker = .publishing m) :
    Sound { s with worker := .idle, stats := st } := by
  have hne : s.pending ≠ [] := by simp [pending, hw]
  constructor
  · exact h.calls
  · exact h.markers
  · exact h.barred
  · exact h.closing
  · exact h.beyond
  · exact h.behind
  · intro t p hcall ht; exact absurd (h.through hcall ht) hne
  · intro hs
    have hs' : .stop ∈ s.queue := by simpa using hs
    exact absurd (h.stopped (.inl hs')).2 hne

/-! ## Steps and runs -/

theorem pending_of_idle {c : Command} {rest : List Command} (hw : s.worker = .idle)
    (hq : s.queue = c :: rest) : s.pending = c.message?.toList ++ messages rest := by
  unfold pending waiting messages
  rw [hw, hq, List.filterMap_cons]
  cases c.message? <;> simp

/-- **The invariant is preserved by every step.** -/
theorem sound_step (h : s.Sound) (hs : Steps s a s' out) : s'.Sound := by
  cases hs with
  | barred m hc => exact sound_counts h h.barred
  | full m hc hr => exact sound_counts h h.barred
  | accept m hc hr => exact sound_accept h m _ hc
  | count hu => exact sound_counts h fun hc => by rw [h.barred hc]
  | refuse hc => exact sound_skipTicket h
  | beginFlush hc => exact sound_enroll h false (fun hb => absurd hb Bool.false_ne_true)
  | again hu hc => exact sound_skipTicket h
  | beginClose hu hc =>
      -- closing an open sink is sound because nothing is half-way and no close is under way
      have hclosed : Sound { s with closed := true } := by
        constructor
        · exact h.calls
        · exact h.markers
        · exact fun _ => hu
        · exact fun _ => rfl
        · exact h.beyond
        · exact h.behind
        · exact h.through
        · exact fun hst => ⟨rfl, (h.stopped hst).2⟩
      exact sound_enroll hclosed true (fun _ => rfl)
  | mark t closing hcall hr hw =>
      have hq : Sound (s.enqueue (.flush t)) :=
        sound_enqueue h rfl (fun u he => by cases he; exact h.calls hcall) (fun he => by cases he)
      exact sound_advance (p := .entering) hq hcall (by simp) (by simp [Phase.isThrough])
  | flushed t hcall => exact sound_dismiss h t _
  | goOn t hcall => exact sound_advance h hcall (fun _ => rfl) fun _ _ => h.through hcall rfl
  | sendStop t closing hcall hr hw =>
      obtain rfl : closing = true := h.beyond hcall (.inl rfl)
      have hp : s.pending = [] := h.through hcall rfl
      have hq : Sound (s.enqueue .stop) :=
        sound_enqueue h rfl (fun u he => by cases he) fun _ => ⟨h.closing hcall, hp⟩
      exact sound_advance (p := .stopping) hq hcall (fun _ => rfl)
        fun _ _ => (pending_enqueue rfl).trans hp
  | join t closing hcall hw => exact sound_dismiss h t _
  | giveUp t closing p hcall hp => exact sound_dismiss h t _
  | giveUpStop t closing hcall => exact sound_dismiss h t _
  | takeMessage m rest hw hq => exact sound_take h hq (by simp) (pending_of_idle hw hq).symm
  | reach t closing rest hw hq hcall =>
      have hp := pending_of_idle hw hq
      have htail : Sound { s with queue := rest } :=
        sound_take (w := s.worker) h hq (by simp [hw]) (by rw [hw, hp]; rfl)
      refine sound_advance (p := .waiting) htail hcall (by simp) fun hb _ => ?_
      -- nothing stood behind the marker, and nothing stood in front of it
      subst hb
      have hbehind := h.behind hcall
      rw [hq, fromMarker, List.dropWhile_cons_of_neg (by simp)] at hbehind
      simpa [pending, waiting, hw] using hbehind
  | pass t rest hw hq hcall =>
      exact sound_take (w := s.worker) h hq (by simp [hw])
        (by rw [hw, pending_of_idle hw hq]; rfl)
  | takeStop rest hw hq => exact sound_take h hq (fun _ => rfl) (pending_of_idle hw hq).symm
  | finish m o hw => exact sound_finish h hw

/-- The invariant holds at every moment of every run. -/
theorem sound_run {topic : String} {capacity : Nat} {as : List Action}
    (h : Run (ofCapacity topic capacity) as out s) : s.Sound := by
  induction h with
  | start => exact sound_ofCapacity topic capacity
  | next _ hs ih => exact sound_step ih (step_eq_some_iff.mp hs)

end Sink

end Herald.Remote
