import Herald.Manager.Shipping
import Herald.Proofs.Manager.Rules
import Herald.Proofs.Remote.Closing

/-!
# The course of a manager

Calls are made on a manager one after the other, each where it stands in the
program. Between them the clock goes on, and the remote sink lives a life of its
own: its worker takes messages, a publish comes back or never does, others flush,
close and emit. None of this is in the hands of the callers, so a course allows it
in any order, and also in the middle of a call that raises a warning, between the record
of the trouble and that of the warning.

A course keeps its `History`: each move with the manager on which it was made. What
was asked of the manager, what came of it and what its sinks got is read off it.
-/

namespace Herald.Manager

/-- An operation and from where in the program it is asked for. -/
structure Call where
  site : Site
  /-- What a walk up the stack finds. -/
  stack : List Symbol := []
  operation : Operation

/-- Makes a call. -/
def Call.run (c : Call) (m : Manager) (meanwhile : List Remote.Action := []) :
    Manager × List Event × Completion :=
  { m with stack := c.stack }.perform c.site c.operation meanwhile

/-- What can happen next. -/
inductive Move where
  /-- A call. If it raises a warning, the remote sink does `meanwhile` what it can of this. -/
  | call (c : Call) (meanwhile : List Remote.Action := [])
  /-- The clock goes on. -/
  | tick (now : Clock)
  /-- The remote sink does something, whoever made it. -/
  | remote (a : Remote.Action)

/-- The moves and what they do. -/
inductive Step (m : Manager) : Move → Manager → Prop where
  | call (c : Call) (meanwhile : List Remote.Action) :
      Step m (.call c meanwhile) (c.run m meanwhile).1
  | tick (now : Clock) : Step m (.tick now) { m with clock := now }
  | remote {s s' : Remote.Sink} {out : List Remote.Signal} (a : Remote.Action)
      (hs : m.remote = some s) (hstep : s.step a = some (s', out)) :
      Step m (.remote a) (m.withRemote s' out)

/-- The moves made so far, each with the manager on which it was made. -/
abbrev History := List (Manager × Move)

/-- The courses from a manager on. -/
inductive Course (m₀ : Manager) : History → Manager → Prop where
  | start : Course m₀ [] m₀
  | next {h : History} {m m' : Manager} {a : Move} :
      Course m₀ h m → Step m a m' → Course m₀ (h ++ [(m, a)]) m'

/-! ## What a history tells -/

/-- The call that a move is. -/
def Move.call? : Move → Option Call
  | .call c _ => some c
  | _ => none

theorem Move.eq_call {a : Move} {c : Call} (h : a.call? = some c) : ∃ as, a = .call c as := by
  cases a with
  | call c' as => exact ⟨as, congrArg (Move.call · as) (Option.some.inj h)⟩
  | _ => cases h

/-- The calls, in order. -/
def calls (h : History) : List Call := h.filterMap fun e => e.2.call?

/-- What was asked for, in order. -/
def operations (h : History) : List Operation := (calls h).map Call.operation

/-- How a call ended, if the move is one. -/
def completion? : Manager × Move → Option Completion
  | (m, .call c meanwhile) => some (c.run m meanwhile).2.2
  | _ => none

/-- How the calls ended, in order. -/
def completions (h : History) : List Completion := h.filterMap completion?

/-- The events of a move that is a call. -/
def eventsIn : Manager × Move → List Event
  | (m, .call c meanwhile) => (c.run m meanwhile).2.1
  | _ => []

/-- The events of the calls, in order. -/
def events (h : History) : List Event := h.flatMap eventsIn

section

variable {hist : History} {m m₀ m' q : Manager} {a : Move}

theorem calls_snoc (hist : History) (m : Manager) (a : Move) :
    calls (hist ++ [(m, a)]) = calls hist ++ a.call?.toList := by
  rw [calls, List.filterMap_append]
  cases a <;> rfl

theorem operations_snoc (hist : History) (m : Manager) (a : Move) :
    operations (hist ++ [(m, a)]) = operations hist ++ (a.call?.map Call.operation).toList := by
  rw [operations, calls_snoc, List.map_append]
  cases a <;> rfl

theorem completions_snoc (hist : History) (e : Manager × Move) :
    completions (hist ++ [e]) = completions hist ++ (completion? e).toList := by
  rw [completions, List.filterMap_append]
  cases he : completion? e <;> simp [he, completions]

theorem events_snoc (hist : History) (e : Manager × Move) :
    events (hist ++ [e]) = events hist ++ eventsIn e := by
  simp [events]

theorem Course.append {hist' : History} (h : Course m₀ hist m) (h' : Course m hist' q) :
    Course m₀ (hist ++ hist') q := by
  induction h' with
  | start => rwa [List.append_nil]
  | next _ hstep ih =>
      rw [← List.append_assoc]
      exact ih.next hstep

end

/-! ## Calls with nothing in between -/

/-- The manager after calls made one right after the other. -/
def after (m : Manager) (cs : List Call) : Manager := cs.foldl (fun m c => (c.run m).1) m

/-- These calls as a history. -/
def script (m : Manager) : List Call → History
  | [] => []
  | c :: rest => (m, .call c) :: script (c.run m).1 rest

theorem after_snoc (m : Manager) (cs : List Call) (c : Call) :
    m.after (cs ++ [c]) = (c.run (m.after cs)).1 := by
  rw [after, List.foldl_append]
  rfl

theorem script_snoc (m : Manager) (cs : List Call) (c : Call) :
    m.script (cs ++ [c]) = m.script cs ++ [(m.after cs, .call c)] := by
  induction cs generalizing m with
  | nil => rfl
  | cons c' cs ih =>
      have hrest := ih (c'.run m).1
      rw [List.cons_append, script, hrest]
      rfl

/-- Calls made one right after the other are a course. -/
theorem course_of_calls (m : Manager) (cs : List Call) : Course m (m.script cs) (m.after cs) := by
  -- a script begins with its first call, while a course grows at its end
  induction cs generalizing m with
  | nil => exact .start
  | cons c cs ih =>
      have hfirst := (@Course.start m).next (.call c [])
      exact hfirst.append (ih (c.run m).1)

/-! ## The remote side alone -/

/-- Whatever the remote sink does is a course, with its steps for moves. -/
theorem exists_course_of_run {m : Manager} {s s' : Remote.Sink} {as : List Remote.Action}
    {out : List Remote.Signal} (hs : m.remote = some s) (hrun : s.Run as out s') :
    ∃ hist, Course m hist (m.withRemote s' out) ∧ hist.map Prod.snd = as.map Move.remote := by
  induction hrun with
  | start =>
      have hsame : m.withRemote s [] = m := by
        rw [withRemote, ← hs]
        rfl
      rw [hsame]
      exact ⟨[], .start, rfl⟩
  | @next as out out' s₁ s₂ a _ hstep ih =>
      obtain ⟨hist, hcourse, hmoves⟩ := ih
      have hnext : m.withRemote s₂ (out ++ out') = (m.withRemote s₁ out).withRemote s₂ out' := by
        rw [withRemote, List.foldl_append]
        rfl
      rw [hnext]
      refine ⟨_, hcourse.next (.remote a rfl hstep), ?_⟩
      rw [List.map_append, List.map_append, hmoves]
      rfl

theorem exists_remote_of_mem {hist : History} {as : List Remote.Action}
    (h : hist.map Prod.snd = as.map Move.remote) {e : Manager × Move} (he : e ∈ hist) :
    ∃ a ∈ as, e.2 = .remote a := by
  have hmove : e.2 ∈ as.map Move.remote := h ▸ List.mem_map_of_mem he
  obtain ⟨a, ha, heq⟩ := List.mem_map.mp hmove
  exact ⟨a, ha, heq.symm⟩

theorem calls_eq_nil {hist : History} {as : List Remote.Action}
    (h : hist.map Prod.snd = as.map Move.remote) : calls hist = [] := by
  refine List.filterMap_eq_nil_iff.mpr fun e he => ?_
  obtain ⟨a, -, ha⟩ := exists_remote_of_mem h he
  rw [ha]
  rfl

theorem shutdown_of_remote {m : Manager} {s : Remote.Sink} (hs : m.remote = some s)
    (c : Remote.Carrier) :
    (m.shutdown c).1
      = m.withRemote (Remote.Uplink.close ⟨s, c⟩).1.sink (Remote.Uplink.close ⟨s, c⟩).2.1 := by
  unfold shutdown atRemote
  rw [hs]
  dsimp only
  -- what a close does is not looked at
  generalize Remote.Uplink.close ⟨s, c⟩ = closed
  rfl

end Herald.Manager
