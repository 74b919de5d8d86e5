import Herald.Proofs.Manager.Backstage
import Herald.Proofs.Remote.Emission

/-!
# Isolation of remote shipping

Take two managers that differ in their remote sides: one ships and the other does
not, their queues have different room, one transport delivers and the other fails,
breaks down or never returns, one sink is closed long before the other. Make the
same calls on both, and let the remote sides do in between what they will. Then
every call comes back on both, and apart from times the other sinks get the same
records, the same is counted, and the application is handed the same.

The two courses have only their calls in common. So each is compared with the
`script` of these calls, in which they are made one right after the other
(`course_script`); what happens between the calls leaves the local side as it is.
-/

namespace Herald

/-- Whether the call came back. -/
def Completion.isDone (e : Completion) : Bool := e = .done

namespace Manager

variable {m m' m₀ q q' : Manager} {hist hist' : History} {a : Move}

/-! ## What is heard in a course -/

/-- What is heard in a move away from the remote sink. -/
def heardIn (e : Manager × Move) : List Event := heard e.1.clock (eventsIn e)

/-- What is heard in a course, in order. -/
def heardAll (hist : History) : List Event := hist.flatMap heardIn

/-- Whether the calls came back, in order. -/
def returns (hist : History) : List Bool := (completions hist).map Completion.isDone

theorem heardAll_snoc (hist : History) (e : Manager × Move) :
    heardAll (hist ++ [e]) = heardAll hist ++ heardIn e := by
  simp [heardAll]

theorem returns_snoc (hist : History) (e : Manager × Move) :
    returns (hist ++ [e]) = returns hist ++ ((completion? e).map Completion.isDone).toList := by
  rw [returns, completions_snoc, List.map_append]
  cases completion? e <;> rfl

/-! ## One move -/

theorem sameCall_run (h : Alike m m') (c : Call) (as as' : List Remote.Action) :
    SameCall m.clock m'.clock (c.run m as) (c.run m' as') := by
  have hstack : ∀ m : Manager, { m with stack := c.stack }.localSide
      = { m.localSide with stack := c.stack } := fun _ => rfl
  have hsame : Alike { m with stack := c.stack } { m' with stack := c.stack } := by
    rw [Alike, hstack, hstack, h.localSide_eq]
  exact sameCall_perform hsame c.site c.operation as as'

/-- **What happens between calls leaves the local side as it is.** -/
theorem alike_between (hs : Step m a m') (ha : a.call? = none) : Alike m' m := by
  cases hs with
  | call c as => cases ha
  | tick now => rfl
  | remote a hs hstep => exact alike_withRemote hs _ _

/-! ## Courses compared -/

/-- A course comes to the same as its calls with nothing in between, on a manager that is alike. -/
structure Comes (hist : History) (q : Manager) (hist' : History) (q' : Manager) : Prop where
  alike : Alike q q'
  heard : heardAll hist = heardAll hist'
  returns : returns hist = returns hist'

theorem course_script (h : Course m hist q) (hm : Alike m m₀) :
    Comes hist q (m₀.script (calls hist)) (m₀.after (calls hist)) := by
  induction h with
  | start => exact ⟨hm, rfl, rfl⟩
  | @next hist q q' a _ hstep ih =>
      cases hcall : a.call? with
      | none =>
          -- the script stays as it is, and nothing is heard
          have hquiet : heardIn (q, a) = [] ∧ completion? (q, a) = none := by
            cases a with
            | call c meanwhile => cases hcall
            | _ => exact ⟨rfl, rfl⟩
          rw [calls_snoc, hcall, Option.toList_none, List.append_nil]
          refine ⟨Eq.trans (alike_between hstep hcall) ih.alike, ?_, ?_⟩
          · rw [heardAll_snoc, hquiet.1, List.append_nil, ih.heard]
          · rw [returns_snoc, hquiet.2, Option.map_none, Option.toList_none, List.append_nil,
              ih.returns]
      | some c =>
          -- the same call is the next one of the script, on a manager that is alike
          obtain ⟨as, rfl⟩ := Move.eq_call hcall
          cases hstep
          have hrun := sameCall_run ih.alike c as []
          rw [calls_snoc, hcall, Option.toList_some, script_snoc, after_snoc]
          refine ⟨hrun.outcome.alike, ?_, ?_⟩
          · have hheard : heardIn (q, .call c as) = heardIn (m₀.after (calls hist), .call c) :=
              hrun.outcome.heard
            rw [heardAll_snoc, heardAll_snoc, ih.heard, hheard]
          · have hends : (c.run q as).2.2.isDone = (c.run (m₀.after (calls hist))).2.2.isDone :=
              decide_eq_decide.mpr hrun.ends
            rw [returns_snoc, returns_snoc, ih.returns, completion?, completion?, Option.map_some,
              Option.map_some, hends]

/-- **Two courses with the same calls come to the same.** -/
theorem comes_of_calls_eq (halike : Alike m m') (h : Course m hist q) (h' : Course m' hist' q')
    (hcalls : calls hist = calls hist') : Comes hist q hist' q' := by
  have hleft := course_script h halike
  have hright := course_script h' rfl
  rw [hcalls] at hleft
  exact ⟨hleft.alike.trans hright.alike.symm, hleft.heard.trans hright.heard.symm,
    hleft.returns.trans hright.returns.symm⟩

/-! ## Every call comes back -/

/-- No application is installed that breaks down. -/
def Calm (m : Manager) : Prop := m.slot.current ≠ some .panicking

theorem Calm.of_slot (h : Calm m) (hslot : m'.slot = m.slot) : Calm m' := by
  rw [Calm, hslot]
  exact h

theorem calm_escalate (h : Calm m) (e : Escalation) :
    Calm (m.escalate e).1 ∧ (m.escalate e).2.2 = .done := by
  have hfind : m.accessor.find m.slot ≠ some .panicking := by
    cases m.accessor with
    | slot => exact h
    | nowhere => exact fun hnone => absurd hnone (by simp [Accessor.find])
  unfold escalate Escalation.deliver
  cases hfound : m.accessor.find m.slot with
  | none => exact ⟨h, rfl⟩
  | some a =>
      cases a with
      | panicking => exact absurd hfound hfind
      | recording label => exact ⟨h, rfl⟩

theorem calm_logAt (h : Calm m) (site : Site) (key : String) (l : Level) (message : String) :
    Calm (m.logAt site key l message).1 :=
  h.of_slot (backstage_logAt m site key l message).slot

theorem calm_notify (h : Calm m) (site : Site) (key message : String) :
    Calm (m.notify site key message).1 ∧ (m.notify site key message).2.2 = .done := by
  have hlog := calm_logAt h site key Level.notify message
  unfold notify
  dsimp only
  split
  · exact ⟨hlog, rfl⟩
  · exact calm_escalate hlog _

theorem calm_drift (h : Calm m) (as : List Remote.Action) : Calm (m.drift as) :=
  drift_preserves (P := Calm) h (fun h _ _ => h) as

theorem calm_network (h : Calm m) (site : Site) (key message : String) (warning : Option String)
    (as : List Remote.Action) :
    Calm (m.network site key message warning as).1
      ∧ (m.network site key message warning as).2.2 = .done := by
  have hlog := calm_logAt h site key Level.network message
  unfold network
  generalize m.logAt site key Level.network message = t at hlog ⊢
  obtain ⟨m₁, logged⟩ := t
  dsimp only
  cases m₁.warning? key warning with
  | none => exact ⟨hlog, rfl⟩
  | some w =>
      have hagain := calm_logAt (calm_drift hlog as) site key Level.warning w.text
      exact calm_escalate hagain (.warning w)

/-- An operation comes back unless an application breaks down over it. -/
theorem calm_perform (h : Calm m) (site : Site) {o : Operation} (ho : o ≠ .install .panicking)
    (as : List Remote.Action) :
    Calm (m.perform site o as).1 ∧ (m.perform site o as).2.2 = .done := by
  have hget : ∀ name, Calm (m.getLogger name).1 := fun name => h
  cases o with
  | log name l message =>
      rw [perform_log]
      exact ⟨calm_logAt (hget name) site (loggerName name) l message, rfl⟩
  | notify name message =>
      rw [perform_notify]
      exact calm_notify (hget name) site (loggerName name) message
  | network name message warning =>
      rw [perform_network]
      exact calm_network (hget name) site (loggerName name) message warning as
  | install a =>
      refine ⟨?_, rfl⟩
      cases a with
      | panicking => exact absurd rfl ho
      | recording label =>
          change some (Application.recording label) ≠ some .panicking
          simp
  | clear =>
      refine ⟨?_, rfl⟩
      change none ≠ some Application.panicking
      simp
  | attach place s => cases place <;> exact ⟨h, rfl⟩
  | _ => exact ⟨h, rfl⟩

theorem calm_course (h : Course m hist q) (hm : Calm m)
    (hinstall : ∀ c ∈ calls hist, c.operation ≠ .install .panicking) :
    Calm q ∧ completions hist = List.replicate (calls hist).length .done := by
  induction h with
  | start => exact ⟨hm, rfl⟩
  | @next hist q q' a _ hstep ih =>
      rw [calls_snoc] at hinstall ⊢
      obtain ⟨hq, hdone⟩ := ih fun c hc => hinstall c (List.mem_append_left _ hc)
      rw [completions_snoc, hdone, List.length_append]
      cases hstep with
      | call c as =>
          have ho := hinstall c (List.mem_append_right _ (List.mem_singleton.mpr rfl))
          have hrun : Calm (c.run q as).1 ∧ (c.run q as).2.2 = .done :=
            calm_perform (m := { q with stack := c.stack }) hq c.site ho as
          refine ⟨hrun.1, ?_⟩
          rw [completion?, hrun.2, ← List.replicate_append_replicate]
          rfl
      | tick now => exact ⟨hq, List.append_nil _⟩
      | remote a hs hstep => exact ⟨hq, List.append_nil _⟩

/-- An emit waits for nobody: it can be made in every state, and counted if it was accepted. -/
theorem emit_unhindered (s : Remote.Sink) (message : Message) :
    ∃ s₁ out₁, s.step (.offer message) = some (s₁, out₁)
      ∧ (.accepted message ∈ out₁ → ∃ s₂ out₂, s₁.step .count = some (s₂, out₂)) := by
  unfold Remote.Sink.step
  dsimp only
  -- closed, with room in the queue, and full
  split
  · exact ⟨_, _, rfl, fun hmem => absurd hmem (by simp)⟩
  · split
    · refine ⟨_, _, rfl, fun _ => ?_⟩
      rw [if_pos (Nat.succ_pos _)]
      exact ⟨_, _, rfl⟩
    · exact ⟨_, _, rfl, fun hmem => absurd hmem (by simp)⟩

/--
**Nobody but the remote sink can tell what the remote side does.**

Two managers are alike but for their remote sides, and on both the same calls are
made, with anything at all happening at the remote sinks in between. Unless an
application that breaks down is installed, every call comes back on both; no emit
waits for anybody. Apart from times, on both the other sinks receive the same
records and applications the same escalations, in the same order, and the sinks in
memory end up with the same records. So do the counters of records and escalations.
-/
theorem remote_side_isolated {hist₁ hist₂ : History} {m₁ m₂ q₁ q₂ : Manager}
    (halike : Alike m₁ m₂) (h₁ : Course m₁ hist₁ q₁) (h₂ : Course m₂ hist₂ q₂)
    (hcalls : calls hist₁ = calls hist₂) (hcalm : Calm m₁)
    (hinstall : ∀ c ∈ calls hist₁, c.operation ≠ .install .panicking) :
    completions hist₁ = List.replicate (calls hist₁).length .done
      ∧ completions hist₂ = List.replicate (calls hist₂).length .done
      ∧ (∀ (s : Remote.Sink) (message : Message),
          ∃ s₁ out₁, s.step (.offer message) = some (s₁, out₁)
            ∧ (.accepted message ∈ out₁ → ∃ s₂ out₂, s₁.step .count = some (s₂, out₂)))
      ∧ heardAll hist₁ = heardAll hist₂
      ∧ q₁.memory.map MemorySink.undated = q₂.memory.map MemorySink.undated
      ∧ q₁.metrics.records = q₂.metrics.records
      ∧ q₁.metrics.escalated = q₂.metrics.escalated
      ∧ q₁.metrics.missed = q₂.metrics.missed := by
  have hcalm' : Calm m₂ := by
    have hcurrent : m₁.slot.current = m₂.slot.current := congrArg LocalSide.current halike
    rw [Calm, ← hcurrent]
    exact hcalm
  have hcomes := comes_of_calls_eq halike h₁ h₂ hcalls
  have hside := hcomes.alike.localSide_eq
  refine ⟨(calm_course h₁ hcalm hinstall).2, ?_, emit_unhindered, hcomes.heard, ?_, ?_, ?_, ?_⟩
  · exact (calm_course h₂ hcalm' (hcalls ▸ hinstall)).2
  · exact congrArg LocalSide.memory hside
  · exact congrArg LocalSide.records hside
  · exact congrArg LocalSide.escalated hside
  · exact congrArg LocalSide.missed hside

/-- A manager that does not ship. -/
def localPlan : Plan where
  testMode := .forced false
  rootSinks := [{}]
  clock := { seconds := 1, civil := "2024-01-01 12:00:00", precise := "2024-01-01 12:00:00,000" }

/-- The same an hour later, shipping with room for one record. -/
def shippingPlan : Plan :=
  { localPlan with
    config := { remote := { enabled := true, topic := some "records", queueCapacity := 1 } }
    hasTransport := true
    clock := { seconds := 2, civil := "2024-01-01 13:00:00", precise := "2024-01-01 13:00:00,000" } }

/-- Calls of an application that is there for its notifications and warnings. -/
def shortCalls : List Call :=
  [.install (.recording "host"), .log "app" Level.info "one", .log "app" Level.error "two",
    .notify "app" "ready", .network "app" "lost" (some "offline")].map fun o =>
      { site := ⟨"app", 1⟩, operation := o }

/--
The remote sink takes one record of five. Its queue is full for the next, the publish
of the first breaks down, and it is closed before the others come.
-/
theorem remote_side_isolated_stalledRun :
    ∃ m₁ m₂ hist₁ hist₂ q₁ q₂, Course m₁ hist₁ q₁ ∧ Course m₂ hist₂ q₂
      ∧ q₁.remote.isNone ∧ q₂.remote.map (·.stats)
          = some { queued := 1, published := 0, failed := 1, dropped := 4 }
      ∧ calls hist₁ = shortCalls ∧ calls hist₂ = shortCalls
      ∧ completions hist₂ = List.replicate 5 .done
      ∧ heardAll hist₁ = heardAll hist₂
      ∧ q₁.memory.map MemorySink.undated = q₂.memory.map MemorySink.undated := by
  have hbuild : build .defaults localPlan
      = .ok (assemble .defaults localPlan Level.info none, _) := rfl
  have hbuild' : build .defaults shippingPlan
      = .ok (assemble .defaults shippingPlan Level.info (some (.ofCapacity "records" 1)), _) := rfl
  have h₁ := course_of_calls (assemble .defaults localPlan Level.info none) shortCalls
  have hfull := course_of_calls
    (assemble .defaults shippingPlan Level.info (some (.ofCapacity "records" 1)))
    (shortCalls.take 3)
  have hclosed := ((hfull.next (.remote .take rfl rfl)).next
    (.remote (.finish .panicked) rfl rfl)).next (.remote .beginClose rfl rfl)
  have h₂ := hclosed.append (course_of_calls _ (shortCalls.drop 3))
  obtain ⟨-, hdone, -, hheard, hmemory, -⟩ := remote_side_isolated
    (alike_build hbuild hbuild' rfl) h₁ h₂ rfl (by simp [Calm, assemble, localPlan]) (by
      have hinstall : ∀ c ∈ shortCalls, c.operation ≠ .install .panicking := by decide
      exact hinstall)
  exact ⟨_, _, _, _, _, _, h₁, h₂, rfl, rfl, rfl, rfl, hdone, hheard, hmemory⟩

end Manager

end Herald
