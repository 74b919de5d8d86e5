import Herald.Proofs.Remote.Emission

/-!
# Room for messages

Messages and markers share the places of the queue. A marker has its place from the
moment when it gets in until the worker comes to it, and it keeps the place when its
flush gives up before that. So the queue holds as many messages as the markers in it
leave room for, and an open sink drops a message exactly when messages and markers
together fill the queue. Against a transport that does not return, flushes that gave
up can take every place there is.

Which markers there are is an invariant of its own, `Marked`: no flush has two, and
in an open sink each of them is that of a flush that waits or of one that gave up.
-/

namespace Herald.Remote

/-- The ticket on a marker. -/
def Command.ticket? : Command → Option Nat
  | .flush t => some t
  | .publish _ | .stop => none

/-- The tickets on the markers among commands, in order. -/
def tickets (q : List Command) : List Nat := q.filterMap Command.ticket?

theorem mem_tickets {t : Nat} {q : List Command} : t ∈ tickets q ↔ .flush t ∈ q := by
  unfold tickets
  rw [List.mem_filterMap]
  constructor
  · rintro ⟨c, hc, ht⟩
    cases c with
    | flush u => obtain rfl := Option.some.inj ht; exact hc
    | publish m => cases ht
    | stop => cases ht
  · intro hm
    exact ⟨_, hm, rfl⟩

/-- Where no stop stands, every command is a message or a marker. -/
theorem length_eq_messages_add_tickets {q : List Command} (h : .stop ∉ q) :
    q.length = (messages q).length + (tickets q).length := by
  induction q with
  | nil => rfl
  | cons c q ih =>
      have hq := ih fun hm => h (List.mem_cons_of_mem _ hm)
      cases c with
      | publish m =>
          rw [messages_publish, List.length_cons, List.length_cons, hq]
          exact Nat.add_right_comm _ _ 1
      | flush t =>
          rw [messages_flush, List.length_cons, hq]
          rfl
      | stop => exact absurd List.mem_cons_self h

namespace Sink

variable {s s' : Sink} {a : Action} {as : List Action} {out out' : List Signal} {t : Nat}

/-- The calls whose markers are in the queue, in order. -/
def markers (s : Sink) : List Nat := tickets s.queue

theorem markers_enqueue (s : Sink) (c : Command) :
    (s.enqueue c).markers = s.markers ++ c.ticket?.toList := by
  unfold markers tickets enqueue
  cases c <;> simp [Command.ticket?]

/-! ## Whose markers they are -/

/-- The markers in the queue, and the calls that they belong to. -/
structure Marked (out : List Signal) (s : Sink) : Prop where
  /-- No call has two markers. -/
  once : s.markers.Nodup
  /-- A call has no marker yet when it is about to put one in. -/
  fresh : ∀ {t : Nat} {b : Bool}, s.call? t = some ⟨t, b, .entering⟩ → t ∉ s.markers
  /-- In an open sink a marker is that of a flush that waits, or of one that gave up. -/
  owner : s.closed = false → ∀ t ∈ s.markers,
    s.call? t = some ⟨t, false, .waiting⟩ ∨ .returned t .flushTimedOut ∈ out

theorem marked_ofCapacity (topic : String) (capacity : Nat) :
    Marked [] (ofCapacity topic capacity) where
  once := List.nodup_nil
  fresh _ := List.not_mem_nil
  owner _ _ ht := absurd ht List.not_mem_nil

/-- Calls stay where they are, and no marker gets in. -/
theorem Marked.keep (h : Marked out s) (out' : List Signal) (hm : s'.markers.Sublist s.markers)
    (hcall : ∀ u, s'.call? u = s.call? u) (hclosed : s.closed = true → s'.closed = true) :
    Marked (out ++ out') s' where
  once := h.once.sublist hm
  fresh hc ht := h.fresh ((hcall _).symm.trans hc) (hm.subset ht)
  owner ho t ht := by
    have hopen : s.closed = false := by
      cases hc : s.closed with
      | false => rfl
      | true => rw [hclosed hc] at ho; cases ho
    rw [hcall]
    exact (h.owner hopen t (hm.subset ht)).imp_right (List.mem_append_left _)

/-- A call moves on that, in an open sink, has no marker in the queue. -/
theorem Marked.advance {b : Bool} {p q : Phase} (h : Marked out s)
    (hcall : s.call? t = some ⟨t, b, p⟩) (hq : q ≠ .entering)
    (hm : s.closed = false → t ∉ s.markers) : Marked out (s.advance t q) where
  once := h.once
  fresh hc := by
    rcases call?_advance_cases hcall hc with ⟨_, hc⟩ | ⟨_, he⟩
    · exact h.fresh hc
    · cases he; exact absurd rfl hq
  owner ho u hu := by
    have hne : u ≠ t := fun he => hm ho (he ▸ hu)
    rw [call?_advance, if_neg hne]
    exact h.owner ho u hu

/-- A call puts in the marker that it then waits for. -/
theorem Marked.mark {b : Bool} (h : Marked out s) (hcall : s.call? t = some ⟨t, b, .waiting⟩)
    (hnew : t ∉ s.markers) (hb : s.closed = false → b = false) :
    Marked out (s.enqueue (.flush t)) := by
  have hmem : ∀ {u : Nat}, u ∈ (s.enqueue (.flush t)).markers → u ∈ s.markers ∨ u = t := by
    intro u hu
    rw [markers_enqueue, List.mem_append] at hu
    exact hu.imp_right List.mem_singleton.mp
  constructor
  · rw [markers_enqueue]
    exact (List.perm_append_singleton t s.markers).nodup_iff.mpr (List.nodup_cons.mpr ⟨hnew, h.once⟩)
  · intro u b' hc hu
    rcases hmem hu with hu | rfl
    · exact h.fresh hc hu
    · exact absurd (hcall.symm.trans hc) (by simp)
  · intro ho u hu
    rcases hmem hu with hu | rfl
    · exact h.owner ho u hu
    · obtain rfl := hb ho
      exact .inl hcall

/-- A call returns; a flush that still waits does so because it gives up. -/
theorem Marked.dismiss (h : Marked out s) (e : Ending)
    (he : s.closed = false → s.call? t = some ⟨t, false, .waiting⟩ → e = .flushTimedOut) :
    Marked (out ++ [.returned t e]) (s.dismiss t e).1 where
  once := h.once
  fresh hc := h.fresh (call?_of_call?_dismiss hc).2
  owner ho u hu := by
    rcases h.owner ho u hu with hcall | hret
    · by_cases hut : u = t
      · subst hut
        obtain rfl := he ho hcall
        exact .inr (List.mem_append_right _ List.mem_cons_self)
      · rw [call?_dismiss, if_neg hut]
        exact .inl hcall
    · exact .inr (List.mem_append_left _ hret)

/-- A call begins, with a ticket that no marker has. -/
theorem Marked.enroll (h : Marked out s) (hi : s.Sound) (b : Bool) : Marked out (s.enroll b) := by
  have hnext : s.nextTicket ∉ s.markers := fun hm =>
    Nat.lt_irrefl _ (hi.markers (mem_tickets.mp hm))
  constructor
  · exact h.once
  · intro u b' hc
    rcases call?_enroll_cases hi.call?_nextTicket hc with hc | ⟨rfl, _⟩
    · exact h.fresh hc
    · exact hnext
  · intro ho u hu
    have hne : u ≠ s.nextTicket := fun he => hnext (he ▸ hu)
    rw [call?_enroll s b u hi.call?_nextTicket, if_neg hne]
    exact h.owner ho u hu

/-- **The markers stay accounted for in every step.** -/
theorem marked_step (hi : s.Sound) (h : Marked out s) (hs : Steps s a s' out') :
    Marked (out ++ out') s' := by
  -- the calls of a close are there only once the sink is closed
  have hopen : ∀ {u : Nat} {p : Phase}, s.call? u = some ⟨u, true, p⟩ → s.closed ≠ false :=
    fun hc ho => absurd ((hi.closing hc).symm.trans ho) Bool.false_ne_true.symm
  have hqueue : ∀ {c : Command} {rest : List Command}, s.queue = c :: rest →
      (tickets rest).Sublist s.markers := by
    intro c rest hq
    rw [markers, hq]
    exact (List.sublist_cons_self c rest).filterMap _
  cases hs with
  | barred m hc => exact h.keep _ (.refl _) (fun _ => rfl) id
  | full m hc hr => exact h.keep _ (.refl _) (fun _ => rfl) id
  | accept m hc hr =>
      have hsame : (s.enqueue (.publish m)).markers = s.markers :=
        (markers_enqueue s (.publish m)).trans (List.append_nil _)
      exact h.keep _ (hsame ▸ .refl _) (fun _ => rfl) id
  | count hu => exact h.keep _ (.refl _) (fun _ => rfl) id
  | refuse hc => exact h.keep _ (.refl _) (fun _ => rfl) id
  | beginFlush hc => exact (h.enroll hi false).keep _ (.refl _) (fun _ => rfl) id
  | again hu hc => exact h.keep _ (.refl _) (fun _ => rfl) id
  | beginClose hu hc => exact (h.enroll hi true).keep _ (.refl _) (fun _ => rfl) fun _ => rfl
  | mark u closing hcall hr hw =>
      have hnew := h.fresh hcall
      have hmoved : Marked out (s.advance u .waiting) := h.advance hcall (by simp) fun _ => hnew
      have hwaits : (s.advance u .waiting).call? u = some ⟨u, closing, .waiting⟩ := by
        rw [call?_advance, if_pos rfl, hcall]
        rfl
      have hflush : s.closed = false → closing = false := by
        intro ho
        cases closing with
        | false => rfl
        | true => exact absurd ho (hopen hcall)
      exact (hmoved.mark hwaits hnew hflush).keep _ (.refl _) (fun _ => rfl) id
  | flushed u hcall =>
      exact h.dismiss _ fun _ hc => absurd (hcall.symm.trans hc) (by simp)
  | goOn u hcall =>
      have hmoved := h.advance (q := .stopping) hcall (by simp) fun ho => absurd ho (hopen hcall)
      exact hmoved.keep _ (.refl _) (fun _ => rfl) id
  | sendStop u closing hcall hr hw =>
      obtain rfl : closing = true := hi.beyond hcall (.inl rfl)
      have hmoved := h.advance (q := .joining) hcall (by simp) fun ho => absurd ho (hopen hcall)
      have hsame : (s.enqueue .stop).markers = s.markers :=
        (markers_enqueue s .stop).trans (List.append_nil _)
      exact hmoved.keep _ (hsame ▸ .refl _) (fun _ => rfl) id
  | join u closing hcall hw =>
      exact h.dismiss _ fun _ hc => absurd (hcall.symm.trans hc) (by simp)
  | giveUp u closing p hcall hp =>
      refine h.dismiss _ fun _ hc => ?_
      cases hcall.symm.trans hc
      rfl
  | giveUpStop u closing hcall =>
      exact h.dismiss _ fun _ hc => absurd (hcall.symm.trans hc) (by simp)
  | takeMessage m rest hw hq => exact h.keep _ (hqueue hq) (fun _ => rfl) id
  | reach u closing rest hw hq hcall =>
      have htaken : Marked out { s with queue := rest } := by
        have hkept : Marked (out ++ []) { s with queue := rest } :=
          h.keep [] (hqueue hq) (fun _ => rfl) id
        rwa [List.append_nil] at hkept
      have hgone : u ∉ tickets rest := by
        have honce := h.once
        rw [markers, hq] at honce
        exact (List.nodup_cons.mp honce).1
      have hmoved := htaken.advance (q := .reached) hcall (by simp) fun _ => hgone
      exact hmoved.keep _ (.refl _) (fun _ => rfl) id
  | pass u rest hw hq hcall => exact h.keep _ (hqueue hq) (fun _ => rfl) id
  | takeStop rest hw hq => exact h.keep _ (hqueue hq) (fun _ => rfl) id
  | finish m o hw => exact h.keep _ (.refl _) (fun _ => rfl) id

theorem marked_run {topic : String} {capacity : Nat}
    (h : Run (ofCapacity topic capacity) as out s) : Marked out s := by
  induction h with
  | start => exact marked_ofCapacity topic capacity
  | next hr hs ih => exact marked_step (sound_run hr) ih (step_eq_some_iff.mp hs)

/-! ## What there is room for -/

/-- In an open sink the places are taken by messages and markers alone. -/
theorem length_queue_of_open (hi : s.Sound) (ho : s.closed = false) :
    s.queue.length = s.waiting.length + s.markers.length := by
  refine length_eq_messages_add_tickets fun hstop => ?_
  exact absurd (ho.symm.trans (hi.stopped (.inl hstop)).1) Bool.false_ne_true

/-- A flush that gives up behind its marker leaves the marker where it is. -/
theorem exists_run_abandoned (hi : s.Sound) (ho : s.closed = false) (hr : s.hasRoom = true) :
    ∃ s', Run s [.beginFlush, .mark s.nextTicket, .expire s.nextTicket]
        [.returned s.nextTicket .flushTimedOut] s'
      ∧ s'.closed = false ∧ s'.waiting = s.waiting ∧ s'.markers = s.markers ++ [s.nextTicket] := by
  have hworks : s.worker ≠ .stopped := fun hw =>
    absurd (ho.symm.trans (hi.stopped (.inr hw)).1) Bool.false_ne_true
  have hbegun : (s.enroll false).call? s.nextTicket = some ⟨s.nextTicket, false, .entering⟩ := by
    rw [call?_enroll s false _ hi.call?_nextTicket, if_pos rfl]
  have hmarked : (((s.enroll false).enqueue (.flush s.nextTicket)).advance s.nextTicket
      .waiting).call? s.nextTicket = some ⟨s.nextTicket, false, .waiting⟩ := by
    rw [call?_advance, if_pos rfl]
    exact congrArg (Option.map _) hbegun
  refine ⟨_, .cons (Steps.beginFlush ho).step_eq (.cons (Steps.mark _ _ hbegun hr hworks).step_eq
    (.cons (Steps.giveUp _ _ _ hmarked (.inr rfl)).step_eq .start)), ho, ?_, ?_⟩
  · exact waiting_enqueue (c := .flush s.nextTicket) rfl
  · exact markers_enqueue (s.enroll false) (.flush s.nextTicket)

/-- An emit into an open sink gets in if there is room, and changes nothing in the queue if not. -/
theorem emit_of_open (ho : s.closed = false) (m : Message) :
    (s.emit m).1.closed = false ∧ (s.emit m).1.capacity = s.capacity
      ∧ (s.emit m).1.queue = (if s.hasRoom then s.queue ++ [.publish m] else s.queue)
      ∧ accepted (s.emit m).2 = if s.hasRoom then [m] else [] := by
  have hcount : ∀ r : Sink, (r.attempt .count).1.closed = r.closed
      ∧ (r.attempt .count).1.capacity = r.capacity ∧ (r.attempt .count).1.queue = r.queue
      ∧ (r.attempt .count).2 = [] := by
    intro r
    simp only [attempt, step]
    split <;> exact ⟨rfl, rfl, rfl, rfl⟩
  unfold emit
  dsimp only
  obtain ⟨hclosed, hcapacity, hqueue, hout⟩ := hcount (s.attempt (.offer m)).1
  rw [hclosed, hcapacity, hqueue, hout, List.append_nil]
  cases hr : s.hasRoom with
  | true =>
      rw [attempt, (Steps.accept m ho hr).step_eq]
      exact ⟨ho, rfl, rfl, rfl⟩
  | false =>
      rw [attempt, (Steps.full m ho hr).step_eq]
      exact ⟨ho, rfl, rfl, rfl⟩

/-- **Of messages emitted one after the other into an open sink the first ones get in, up to the room.** -/
theorem accepted_emitAll (ho : s.closed = false) (ms : List Message) :
    accepted (s.emitAll ms).2 = ms.take (s.capacity - s.queue.length) := by
  induction ms generalizing s with
  | nil => rw [List.take_nil]; rfl
  | cons m ms ih =>
      obtain ⟨hclosed, hcapacity, hqueue, hout⟩ := emit_of_open ho m
      have hrest := ih hclosed
      rw [hcapacity, hqueue] at hrest
      rw [emitAll]
      dsimp only
      rw [accepted_append, hout, hrest]
      by_cases hr : s.hasRoom = true
      · have hlt : s.queue.length < s.capacity := by simpa [hasRoom] using hr
        obtain ⟨k, hk⟩ : ∃ k, s.capacity - s.queue.length = k + 1 :=
          ⟨s.capacity - s.queue.length - 1, by omega⟩
        rw [if_pos hr, if_pos hr, List.length_append, List.length_singleton, hk, List.take_succ_cons,
          show s.capacity - (s.queue.length + 1) = k by omega]
        rfl
      · have hle : s.capacity ≤ s.queue.length := by simpa [hasRoom] using hr
        rw [if_neg hr, if_neg hr, Nat.sub_eq_zero_of_le hle, List.take_zero, List.take_zero]
        rfl

/--
**An open sink drops a message exactly when messages and markers fill the queue.**

Take any run after which the sink is open. Every emit is accepted or dropped, and it is
dropped, and counted so, exactly if the messages that wait and the markers in the queue
are together as many as the queue has places. So of messages emitted now the queue takes
in what the markers leave room for, and without markers it drops one only when it is full
of messages. No flush has more than one marker in the queue, and each marker is that of a
flush that waits or of one that gave up; a flush that gives up now, behind its marker,
costs one place.
-/
theorem dropped_iff_full {topic : String} {capacity : Nat}
    (h : Run (ofCapacity topic capacity) as out s) (ho : s.closed = false) :
    s.waiting.length + s.markers.length ≤ max 1 capacity
      ∧ (∀ m, ∃ s', s.step (.offer m) = some (s',
          [if s.waiting.length + s.markers.length = max 1 capacity then .dropped m
            else .accepted m]))
      ∧ (∀ a s' out', s.step a = some (s', out') →
          s'.stats.dropped = s.stats.dropped
            + if a.isOffer ∧ s.waiting.length + s.markers.length = max 1 capacity then 1 else 0)
      ∧ (∀ ms, accepted (s.emitAll ms).2
          = ms.take (max 1 capacity - s.markers.length - s.waiting.length))
      ∧ s.markers.Nodup
      ∧ (∀ t ∈ s.markers,
          s.call? t = some ⟨t, false, .waiting⟩ ∨ .returned t .flushTimedOut ∈ out)
      ∧ (s.waiting.length + s.markers.length < max 1 capacity →
          ∃ s', Run s [.beginFlush, .mark s.nextTicket, .expire s.nextTicket]
              [.returned s.nextTicket .flushTimedOut] s'
            ∧ s'.closed = false ∧ s'.waiting = s.waiting
            ∧ s'.markers = s.markers ++ [s.nextTicket]) := by
  have hm := marked_run h
  have hlen := length_queue_of_open (sound_run h) ho
  have hroom := (balanced_run h).room
  have hcap : s.capacity = max 1 capacity := h.settings.2.trans (Nat.max_comm _ _)
  rw [hlen, hcap] at hroom
  have hfull : s.hasRoom = false ↔ s.waiting.length + s.markers.length = max 1 capacity := by
    rw [hasRoom, hlen, hcap, decide_eq_false_iff_not]
    omega
  refine ⟨hroom, fun m => ?_, fun a s' out' hs => ?_, fun ms => ?_, hm.once, hm.owner ho,
    fun hlt => exists_run_abandoned (sound_run h) ho ?_⟩
  · cases hr : s.hasRoom with
    | true =>
        rw [if_neg fun hf => absurd (hr.symm.trans (hfull.mpr hf)) (by simp)]
        exact ⟨_, (Steps.accept m ho hr).step_eq⟩
    | false =>
        rw [if_pos (hfull.mp hr)]
        exact ⟨_, (Steps.full m ho hr).step_eq⟩
  · cases step_eq_some_iff.mp hs with
    | barred m hc => exact absurd (ho.symm.trans hc) Bool.false_ne_true
    | full m hc hr => rw [if_pos ⟨rfl, hfull.mp hr⟩]; rfl
    | accept m hc hr =>
        rw [if_neg fun hf => absurd (hr.symm.trans (hfull.mpr hf.2)) (by simp)]
        rfl
    | finish m o hw => cases o <;> rfl
    | _ => rfl
  · rw [accepted_emitAll ho, hlen, hcap, Nat.sub_sub, Nat.add_comm]
  · rw [hasRoom, hlen, hcap]
    exact decide_eq_true hlt

/-- A flush gives up while the transport holds the only message. -/
def heldRun : List Action :=
  [.offer shortMessage, .count, .take, .beginFlush, .mark 0, .expire 0]

/-- What `heldRun` leaves of a queue with one place: no message waits, and a marker has the place. -/
def held : Sink :=
  { topic := "t", capacity := 1, queue := [.flush 0], worker := .publishing shortMessage
    nextTicket := 1, stats := { queued := 1 } }

/-- After `heldRun` no message waits, and still none gets in. -/
theorem dropped_iff_full_heldRun :
    Run (ofCapacity "t" 1) heldRun
        [.accepted shortMessage, .handed "t" shortMessage.encode, .returned 0 .flushTimedOut] held
      ∧ held.closed = false ∧ held.waiting = []
      ∧ (∃ s', held.step (.offer shortMessage) = some (s', [.dropped shortMessage]))
      ∧ accepted (held.emitAll [shortMessage]).2 = [] := by
  have hrun : Run (ofCapacity "t" 1) heldRun
      [.accepted shortMessage, .handed "t" shortMessage.encode, .returned 0 .flushTimedOut] held :=
    run_of_exec rfl
  obtain ⟨-, hoffer, -, hemits, -⟩ := dropped_iff_full hrun rfl
  exact ⟨hrun, rfl, rfl, hoffer shortMessage, hemits [shortMessage]⟩

end Sink

end Herald.Remote
