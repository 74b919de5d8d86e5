import Herald.Remote.Sink

/-!
# One step of the remote sink, and runs of it

`Sink.step` decides by tests what an action does. `Sink.Steps` lists the same
outcomes one by one, each with the condition under which it comes about, and
`step_eq_some_iff` says that the two agree. Every invariant of the sink is then a
case analysis over `Steps`, and nothing else has to open `step`.

The calls that wait are known only through `call?`; the lemmas here say what each
operation does to that view, to the messages in the queue and to the message
that the worker holds.

A `Run` is any number of steps in any order. It keeps the actions and all that
they let be seen, so that statements can speak of the whole history.
-/

namespace Herald.Remote

/-- The message that a command carries. -/
def Command.message? : Command → Option Message
  | .publish m => some m
  | .flush _ | .stop => none

@[simp] theorem Command.message?_publish (m : Message) : (publish m).message? = some m := rfl
@[simp] theorem Command.message?_flush (t : Nat) : (flush t).message? = none := rfl
@[simp] theorem Command.message?_stop : stop.message? = none := rfl

/-- The message of a publish whose outcome is not counted yet. -/
def Worker.message? : Worker → Option Message
  | .publishing m => some m
  | .idle | .stopped => none

@[simp] theorem Worker.message?_publishing (m : Message) : (publishing m).message? = some m := rfl
@[simp] theorem Worker.message?_idle : idle.message? = none := rfl
@[simp] theorem Worker.message?_stopped : stopped.message? = none := rfl

/-- The messages among commands, in order. -/
def messages (q : List Command) : List Message := q.filterMap Command.message?

@[simp] theorem messages_nil : messages [] = [] := rfl

@[simp] theorem messages_publish (m : Message) (q : List Command) :
    messages (.publish m :: q) = m :: messages q := rfl

@[simp] theorem messages_flush (t : Nat) (q : List Command) :
    messages (.flush t :: q) = messages q := rfl

@[simp] theorem messages_stop (q : List Command) : messages (.stop :: q) = messages q := rfl

@[simp] theorem messages_append (q r : List Command) :
    messages (q ++ r) = messages q ++ messages r := List.filterMap_append

/-- What stands in the queue from the marker with this ticket on. -/
def fromMarker (t : Nat) (q : List Command) : List Command := q.dropWhile (· ≠ .flush t)

namespace Sink

/-- The messages that wait in the queue, in order. -/
def waiting (s : Sink) : List Message := messages s.queue

/-- The messages that got in and whose outcome is not counted yet, the worker's own first. -/
def pending (s : Sink) : List Message := s.worker.message?.toList ++ s.waiting

/-- Nothing that got in is left: it has all been handed over, and the outcomes are counted. -/
def Drained (s : Sink) : Prop :=
  s.pending = [] ∧ s.uncounted = 0 ∧ s.stats.queued = s.stats.published + s.stats.failed

instance (s : Sink) : Decidable s.Drained := inferInstanceAs (Decidable (_ ∧ _ ∧ _))

/-! ## The view of the calls -/

theorem ticket_of_call? {s : Sink} {t : Nat} {c : Call} (h : s.call? t = some c) :
    c.ticket = t := by
  have := List.find?_some h
  simpa using this

theorem call?_advance (s : Sink) (t u : Nat) (p : Phase) :
    (s.advance t p).call? u
      = if u = t then (s.call? u).map fun c => { c with phase := p } else s.call? u := by
  unfold call? advance
  induction s.calls with
  | nil => simp
  | cons c cs ih =>
      by_cases hc : c.ticket = u
      · by_cases hu : u = t <;> simp [hc, hu]
      · have hc' : (if c.ticket = t then { c with phase := p } else c).ticket ≠ u := by
          split <;> exact hc
        simpa [List.find?_cons, hc, hc'] using ih

theorem call?_dismiss (s : Sink) (t u : Nat) (e : Ending) :
    (s.dismiss t e).1.call? u = if u = t then none else s.call? u := by
  unfold call? dismiss
  induction s.calls with
  | nil => simp
  | cons c cs ih =>
      by_cases hc : c.ticket = u
      · by_cases hu : u = t
        · simp [hc, hu] at ih ⊢
        · simp [hc, hu]
      · by_cases ht : c.ticket = t
        · simpa [List.find?_cons, ht, show ¬ t = u from ht ▸ hc] using ih
        · simpa [List.find?_cons, hc, ht] using ih

theorem call?_enroll (s : Sink) (closing : Bool) (u : Nat) (h : s.call? s.nextTicket = none) :
    (s.enroll closing).call? u
      = if u = s.nextTicket then some ⟨u, closing, .entering⟩ else s.call? u := by
  unfold call? enroll at *
  rw [List.find?_append]
  by_cases hu : u = s.nextTicket
  · subst hu; simp [h]
  · simp [hu, Ne.symm hu]

/-- A call after a move is one from before, or the moved one. -/
theorem call?_advance_cases {s : Sink} {t u : Nat} {b : Bool} {p q : Phase} {c : Call}
    (hcall : s.call? t = some ⟨t, b, p⟩) (h : (s.advance t q).call? u = some c) :
    u ≠ t ∧ s.call? u = some c ∨ u = t ∧ c = ⟨t, b, q⟩ := by
  rw [call?_advance] at h
  by_cases hu : u = t
  · subst hu
    rw [if_pos rfl, hcall] at h
    exact .inr ⟨rfl, (Option.some.inj h).symm⟩
  · rw [if_neg hu] at h
    exact .inl ⟨hu, h⟩

/-- A call that is left after a return is another one. -/
theorem call?_of_call?_dismiss {s : Sink} {t u : Nat} {e : Ending} {c : Call}
    (h : (s.dismiss t e).1.call? u = some c) : u ≠ t ∧ s.call? u = some c := by
  rw [call?_dismiss] at h
  by_cases hu : u = t
  · rw [if_pos hu] at h
    cases h
  · rw [if_neg hu] at h
    exact ⟨hu, h⟩

/-- A call after another one began is one from before, or the new one. -/
theorem call?_enroll_cases {s : Sink} {u : Nat} {b : Bool} {c : Call}
    (hnext : s.call? s.nextTicket = none) (h : (s.enroll b).call? u = some c) :
    s.call? u = some c ∨ u = s.nextTicket ∧ c = ⟨u, b, .entering⟩ := by
  rw [call?_enroll s b u hnext] at h
  by_cases hu : u = s.nextTicket
  · rw [if_pos hu] at h
    exact .inr ⟨hu, (Option.some.inj h).symm⟩
  · rw [if_neg hu] at h
    exact .inl h

/-! ## Steps, case by case -/

/-- The outcomes of a step, each with the condition under which it comes about. -/
inductive Steps (s : Sink) : Action → Sink → List Signal → Prop where
  /-- The sink is closed, and the message is dropped. -/
  | barred (m : Message) (hc : s.closed = true) : Steps s (.offer m) (s.drop m).1 [.dropped m]
  /-- The queue is full, and the message is dropped. -/
  | full (m : Message) (hc : s.closed = false) (hr : s.hasRoom = false) :
      Steps s (.offer m) (s.drop m).1 [.dropped m]
  | accept (m : Message) (hc : s.closed = false) (hr : s.hasRoom = true) :
      Steps s (.offer m) { s.enqueue (.publish m) with uncounted := s.uncounted + 1 }
        [.accepted m]
  | count (hu : 0 < s.uncounted) :
      Steps s .count
        { s with
          uncounted := s.uncounted - 1
          stats := { s.stats with queued := s.stats.queued + 1 } } []
  | refuse (hc : s.closed = true) :
      Steps s .beginFlush { s with nextTicket := s.nextTicket + 1 }
        [.returned s.nextTicket .flushRefused]
  | beginFlush (hc : s.closed = false) : Steps s .beginFlush (s.enroll false) []
  /-- The sink was closed already. -/
  | again (hu : s.uncounted = 0) (hc : s.closed = true) :
      Steps s .beginClose { s with nextTicket := s.nextTicket + 1 }
        [.returned s.nextTicket .closedBefore]
  | beginClose (hu : s.uncounted = 0) (hc : s.closed = false) :
      Steps s .beginClose ({ s with closed := true }.enroll true) []
  | mark (t : Nat) (closing : Bool) (hcall : s.call? t = some ⟨t, closing, .entering⟩)
      (hr : s.hasRoom = true) (hw : s.worker ≠ .stopped) :
      Steps s (.mark t) ((s.enqueue (.flush t)).advance t .waiting) []
  | flushed (t : Nat) (hcall : s.call? t = some ⟨t, false, .reached⟩) :
      Steps s (.proceed t) (s.dismiss t .flushed).1 [.returned t .flushed]
  | goOn (t : Nat) (hcall : s.call? t = some ⟨t, true, .reached⟩) :
      Steps s (.proceed t) (s.advance t .stopping) []
  | sendStop (t : Nat) (closing : Bool) (hcall : s.call? t = some ⟨t, closing, .stopping⟩)
      (hr : s.hasRoom = true) (hw : s.worker ≠ .stopped) :
      Steps s (.sendStop t) ((s.enqueue .stop).advance t .joining) []
  | join (t : Nat) (closing : Bool) (hcall : s.call? t = some ⟨t, closing, .joining⟩)
      (hw : s.worker = .stopped) :
      Steps s (.join t) (s.dismiss t .closed).1 [.returned t .closed]
  /-- The time of a call is over before the worker reached its marker. -/
  | giveUp (t : Nat) (closing : Bool) (p : Phase) (hcall : s.call? t = some ⟨t, closing, p⟩)
      (hp : p = .entering ∨ p = .waiting) :
      Steps s (.expire t) (s.dismiss t (if closing then .closeTimedOut else .flushTimedOut)).1
        [.returned t (if closing then .closeTimedOut else .flushTimedOut)]
  /-- The time of a close is over before its stop got in. -/
  | giveUpStop (t : Nat) (closing : Bool) (hcall : s.call? t = some ⟨t, closing, .stopping⟩) :
      Steps s (.expire t) (s.dismiss t .closeTimedOut).1 [.returned t .closeTimedOut]
  | takeMessage (m : Message) (rest : List Command) (hw : s.worker = .idle)
      (hq : s.queue = .publish m :: rest) :
      Steps s .take { s with queue := rest, worker := .publishing m } [.handed s.topic m.encode]
  /-- The worker reaches a marker that a call waits for. -/
  | reach (t : Nat) (closing : Bool) (rest : List Command) (hw : s.worker = .idle)
      (hq : s.queue = .flush t :: rest) (hcall : s.call? t = some ⟨t, closing, .waiting⟩) :
      Steps s .take ({ s with queue := rest }.advance t .reached) []
  /-- The worker passes over a marker that nobody waits for any more. -/
  | pass (t : Nat) (rest : List Command) (hw : s.worker = .idle)
      (hq : s.queue = .flush t :: rest)
      (hcall : ∀ closing, s.call? t ≠ some ⟨t, closing, .waiting⟩) :
      Steps s .take { s with queue := rest } []
  | takeStop (rest : List Command) (hw : s.worker = .idle) (hq : s.queue = .stop :: rest) :
      Steps s .take { s with queue := rest, worker := .stopped } []
  | finish (m : Message) (o : Outcome) (hw : s.worker = .publishing m) :
      Steps s (.finish o) { s with worker := .idle, stats := Stats.tally s.stats o }
        [.finished o]

/-- The worker takes a marker. -/
theorem step_take_flush {s : Sink} {t : Nat} {rest : List Command} (hw : s.worker = .idle)
    (hq : s.queue = .flush t :: rest) :
    s.step .take = some ({ s with queue := rest }.reach t, []) := by
  cases s
  subst hw hq
  rfl

theorem reach_of_waiting {s : Sink} {t : Nat} {closing : Bool}
    (h : s.call? t = some ⟨t, closing, .waiting⟩) : s.reach t = s.advance t .reached := by
  unfold reach
  rw [h]

/-- A marker that nobody waits for changes nothing. -/
theorem reach_of_not_waiting {s : Sink} {t : Nat}
    (h : ∀ closing, s.call? t ≠ some ⟨t, closing, .waiting⟩) : s.reach t = s := by
  unfold reach
  split
  · rename_i u closing hcall
    obtain rfl : u = t := ticket_of_call? hcall
    exact absurd hcall (h closing)
  · rfl

theorem Steps.step_eq {s s' : Sink} {a : Action} {out : List Signal} (h : Steps s a s' out) :
    s.step a = some (s', out) := by
  cases h with
  | barred m hc => simp [step, hc, drop]
  | full m hc hr => simp [step, hc, hr, drop]
  | accept m hc hr => simp [step, hc, hr]
  | count hu => simp [step, hu]
  | refuse hc => simp [step, hc]
  | beginFlush hc => simp [step, hc]
  | again hu hc => simp [step, hu, hc]
  | beginClose hu hc => simp [step, hu, hc]
  | mark t closing hcall hr hw => simp [step, hcall, hr, hw]
  | flushed t hcall => simp [step, hcall, dismiss]
  | goOn t hcall => simp [step, hcall]
  | sendStop t closing hcall hr hw => simp [step, hcall, hr, hw]
  | join t closing hcall hw => simp [step, hcall, hw, dismiss]
  | giveUp t closing p hcall hp => rcases hp with rfl | rfl <;> simp [step, hcall, dismiss]
  | giveUpStop t closing hcall => simp [step, hcall, dismiss]
  | takeMessage m rest hw hq => simp [step, hw, hq]
  | reach t closing rest hw hq hcall =>
      rw [step_take_flush hw hq,
        reach_of_waiting (show { s with queue := rest }.call? t = some ⟨t, closing, _⟩ from hcall)]
  | pass t rest hw hq hcall =>
      rw [step_take_flush hw hq,
        reach_of_not_waiting (s := { s with queue := rest }) (t := t) hcall]
  | takeStop rest hw hq => simp [step, hw, hq]
  | finish m o hw => simp [step, hw]

theorem steps_of_step_eq {s s' : Sink} {a : Action} {out : List Signal}
    (h : s.step a = some (s', out)) : Steps s a s' out := by
  cases a with
  | offer m =>
      simp only [step] at h
      split at h
      · rename_i hc; cases h; exact .barred m hc
      · rename_i hc
        split at h
        · rename_i hr; cases h; exact .accept m (by simpa using hc) hr
        · rename_i hr; cases h; exact .full m (by simpa using hc) (by simpa using hr)
  | count =>
      simp only [step] at h
      split at h
      · rename_i hu; cases h; exact .count hu
      · cases h
  | beginFlush =>
      simp only [step] at h
      split at h
      · rename_i hc; cases h; exact .refuse hc
      · rename_i hc; cases h; exact .beginFlush (by simpa using hc)
  | beginClose =>
      simp only [step] at h
      split at h
      · cases h
      · rename_i hu
        split at h
        · rename_i hc; cases h; exact .again (by omega) hc
        · rename_i hc; cases h; exact .beginClose (by omega) (by simpa using hc)
  | mark t =>
      simp only [step] at h
      split at h
      · rename_i u closing hcall
        obtain rfl : u = t := ticket_of_call? hcall
        split at h
        · rename_i hg; cases h; exact .mark u closing hcall hg.1 hg.2
        · cases h
      · cases h
  | proceed t =>
      simp only [step] at h
      split at h
      · rename_i u hcall
        obtain rfl : u = t := ticket_of_call? hcall
        cases h; exact .flushed u hcall
      · rename_i u hcall
        obtain rfl : u = t := ticket_of_call? hcall
        cases h; exact .goOn u hcall
      · cases h
  | sendStop t =>
      simp only [step] at h
      split at h
      · rename_i u closing hcall
        obtain rfl : u = t := ticket_of_call? hcall
        split at h
        · rename_i hg; cases h; exact .sendStop u closing hcall hg.1 hg.2
        · cases h
      · cases h
  | join t =>
      simp only [step] at h
      split at h
      · rename_i u closing hcall
        obtain rfl : u = t := ticket_of_call? hcall
        split at h
        · rename_i hw; cases h; exact .join u closing hcall hw
        · cases h
      · cases h
  | expire t =>
      simp only [step] at h
      split at h
      · rename_i u closing hcall
        obtain rfl : u = t := ticket_of_call? hcall
        cases h; exact .giveUp u closing .entering hcall (.inl rfl)
      · rename_i u closing hcall
        obtain rfl : u = t := ticket_of_call? hcall
        cases h; exact .giveUp u closing .waiting hcall (.inr rfl)
      · rename_i u closing hcall
        obtain rfl : u = t := ticket_of_call? hcall
        cases h; exact .giveUpStop u closing hcall
      · cases h
  | take =>
      simp only [step] at h
      split at h
      · rename_i m rest hw hq; cases h; exact .takeMessage m rest hw hq
      · rename_i t rest hw hq
        cases h
        unfold reach
        split
        · rename_i u closing hcall
          obtain rfl : u = t := ticket_of_call? hcall
          exact .reach u closing rest hw hq hcall
        · rename_i hcall
          exact .pass t rest hw hq fun closing he => hcall t closing he
      · rename_i rest hw hq; cases h; exact .takeStop rest hw hq
      · cases h
  | finish o =>
      simp only [step] at h
      split at h
      · rename_i m hw; cases h; exact .finish m o hw
      · cases h

/-- **`Steps` is `step`.** -/
theorem step_eq_some_iff {s s' : Sink} {a : Action} {out : List Signal} :
    s.step a = some (s', out) ↔ Steps s a s' out :=
  ⟨steps_of_step_eq, Steps.step_eq⟩

/-! ## Runs -/

/-- Actions one after another, each enabled when its turn comes, with all that they let be seen. -/
inductive Run (s₀ : Sink) : List Action → List Signal → Sink → Prop where
  | start : Run s₀ [] [] s₀
  | next {as : List Action} {out out' : List Signal} {s s' : Sink} {a : Action}
      (hr : Run s₀ as out s) (hs : s.step a = some (s', out')) :
      Run s₀ (as ++ [a]) (out ++ out') s'

/-- The run of these actions, if there is one. -/
def exec (s : Sink) : List Action → Option (Sink × List Signal)
  | [] => some (s, [])
  | a :: as =>
    match s.step a with
    | none => none
    | some (s', out) => (exec s' as).map fun r => (r.1, out ++ r.2)

theorem Run.cons {s s' s'' : Sink} {a : Action} {as : List Action} {out out' : List Signal}
    (hs : s.step a = some (s', out)) (hr : Run s' as out' s'') :
    Run s (a :: as) (out ++ out') s'' := by
  induction hr with
  | start => simpa using Run.next .start hs
  | next _ hs' ih => simpa using Run.next ih hs'

/-- Runs can be computed. -/
theorem run_of_exec {s s' : Sink} {as : List Action} {out : List Signal}
    (h : s.exec as = some (s', out)) : Run s as out s' := by
  induction as generalizing s out with
  | nil => cases h; exact .start
  | cons a as ih =>
      rw [exec] at h
      split at h
      · cases h
      · rename_i s₁ out₁ hs
        obtain ⟨⟨s₂, out₂⟩, hrest, he⟩ := Option.map_eq_some_iff.mp h
        cases he
        exact .cons hs (ih hrest)

/-- A message for concrete runs. -/
def shortMessage : Message := ⟨0, "a", 20, "INFO", "x"⟩

/-- The topic and the capacity are settled when the sink is made. -/
theorem Steps.settings {s s' : Sink} {a : Action} {out : List Signal} (h : Steps s a s' out) :
    s'.topic = s.topic ∧ s'.capacity = s.capacity := by
  cases h <;> exact ⟨rfl, rfl⟩

theorem Run.settings {s₀ s : Sink} {as : List Action} {out : List Signal}
    (h : Run s₀ as out s) : s.topic = s₀.topic ∧ s.capacity = s₀.capacity := by
  induction h with
  | start => exact ⟨rfl, rfl⟩
  | next _ hs ih =>
      obtain ⟨ht, hc⟩ := (step_eq_some_iff.mp hs).settings
      exact ⟨ht.trans ih.1, hc.trans ih.2⟩

end Sink

end Herald.Remote
