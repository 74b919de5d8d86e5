import Herald.Proofs.Manager.Twin

/-!
# Test runs shield the application

Under a test runner nothing outside the library is called: no application, whatever it
would do, and nobody who tells where a call came from. To say so, the two are made
arguments: with an `Outside`, an application may do anything at all when it is handed
something, to the manager too, and so may a locator when it is asked. In a test run a
call comes to the same with every `Outside` (`runWith_of_active`).

That nothing comes in from there either is a statement about two courses: they are
started on twins and have the same moves apart from the time, who is installed, where in
the stack a call is made, and whether trouble with a connection comes with a warning.
Then they keep being twins, and the same happens in both (`twins_of_shieldedMoves_eq`).
-/

namespace Herald

/-- The operation without applications: none is installed, and no warning is raised. -/
def Operation.shielded? : Operation → Option Operation
  | .install _ | .clear => none
  | .network name message _ => some (.network name message none)
  | o => some o

namespace Manager

/-! ## What stands outside -/

/-- Whom escalations are handed to, and who tells where a call came from, if he can. -/
structure Outside where
  take : Escalation → Manager → Manager × List Event × Completion
  locate : Manager → Manager × List Event × Except String Location

/-- The application that is found and the manager's locator. -/
def Outside.own : Outside where
  take e m := m.escalate e
  locate m := (m, [], .ok (m.locator.locate m.captureStack m.stack))

/-- Logs a message for the user and shows it outside. -/
def notifyWith (out : Outside) (m : Manager) (site : Site) (key message : String) :
    Manager × List Event × Completion :=
  let (m, logged) := m.logAt site key Level.notify message
  if m.testMode.isActive then (m, logged, .done)
  else
    let (m, events, completion) := out.take (.notify (notificationText m.clock message)) m
    (m, logged ++ events, completion)

/-- Logs trouble with a connection and raises a warning outside, where the caller is located too. -/
def networkWith (out : Outside) (m : Manager) (site : Site) (key message : String)
    (warning : Option String) (meanwhile : List Remote.Action) :
    Manager × List Event × Completion :=
  let (m, logged) := m.logAt site key Level.network message
  match warning with
  | none => (m, logged, .done)
  | some text =>
    if m.testMode.isActive then (m, logged, .done)
    else
      match out.locate m with
      | (m, located, .error panic) => (m, logged ++ located, .panicked panic)
      | (m, located, .ok caller) =>
        let seconds := m.clock.seconds
        let (m, again) := (m.drift meanwhile).logAt site key Level.warning text
        let (m, events, completion) := out.take (.warning ⟨seconds, key, caller, text⟩) m
        (m, logged ++ located ++ again ++ events, completion)

/-- Does an operation with this outside. -/
def performWith (out : Outside) (site : Site) (m : Manager) (o : Operation)
    (meanwhile : List Remote.Action) : Manager × List Event × Completion :=
  match o with
  | .notify name message => (m.getLogger name).1.notifyWith out site (loggerName name) message
  | .network name message warning =>
    (m.getLogger name).1.networkWith out site (loggerName name) message warning meanwhile
  | o => m.perform site o meanwhile

/-- Makes a call with this outside. -/
def Call.runWith (out : Outside) (c : Call) (m : Manager) (meanwhile : List Remote.Action) :
    Manager × List Event × Completion :=
  { m with stack := c.stack }.performWith out c.site c.operation meanwhile

section

variable {m : Manager} {out : Outside}

theorem notifyWith_own (m : Manager) (site : Site) (key message : String) :
    m.notifyWith .own site key message = m.notify site key message := rfl

theorem networkWith_own (m : Manager) (site : Site) (key message : String)
    (warning : Option String) (as : List Remote.Action) :
    m.networkWith .own site key message warning as = m.network site key message warning as := by
  unfold networkWith network warning?
  generalize m.logAt site key Level.network message = t
  obtain ⟨m₁, logged⟩ := t
  cases warning with
  | none => simp only [Option.map_none, ite_self]
  | some text =>
      dsimp only [Outside.own]
      split
      case isTrue _ => rfl
      case isFalse _ => simp only [Option.map_some, warningOf_eq, raise, List.append_nil, List.append_assoc]

/-- Calls as they are made have the manager's own outside. -/
theorem runWith_own (c : Call) (m : Manager) (as : List Remote.Action) :
    c.runWith .own m as = c.run m as := by
  obtain ⟨site, stack, o⟩ := c
  unfold Call.runWith Call.run
  dsimp only
  generalize { m with stack } = m
  cases o with
  | notify name message => rw [perform_notify, performWith, notifyWith_own]
  | network name message warning => rw [perform_network, performWith, networkWith_own]
  | _ => rfl

theorem notifyWith_of_active (htest : m.testMode.isActive = true) (site : Site)
    (key message : String) : m.notifyWith out site key message = m.notify site key message := by
  have hlog := backstage_logAt m site key Level.notify message
  rw [notify_of_active site key htest]
  unfold notifyWith
  dsimp only
  rw [hlog.testMode, if_pos htest]

theorem networkWith_of_active (htest : m.testMode.isActive = true) (site : Site)
    (key message : String) (warning : Option String) (as : List Remote.Action) :
    m.networkWith out site key message warning as = m.network site key message warning as := by
  have hlog := backstage_logAt m site key Level.network message
  rw [network_of_active site key htest]
  unfold networkWith
  cases warning with
  | none => rfl
  | some text =>
      dsimp only
      rw [hlog.testMode, if_pos htest]

/-- **In a test run nothing outside is called.** -/
theorem runWith_of_active (htest : m.testMode.isActive = true) (c : Call)
    (as : List Remote.Action) : c.runWith out m as = c.run m as := by
  obtain ⟨site, stack, o⟩ := c
  unfold Call.runWith Call.run
  have htest' : ∀ name, ({ m with stack }.getLogger name).1.testMode.isActive = true :=
    fun _ => htest
  cases o with
  | notify name message =>
      rw [perform_notify]
      exact notifyWith_of_active (htest' name) site (loggerName name) message
  | network name message warning =>
      rw [perform_network]
      exact networkWith_of_active (htest' name) site (loggerName name) message warning as
  | _ => rfl

end

/-! ## Moves as they are without applications -/

/-- The move without applications, callers and times, if anything is left of it. -/
def Move.shielded? : Move → Option Move
  | .call c _ => c.operation.shielded?.map fun o => .call { site := c.site, operation := o }
  | .tick _ => none
  | .remote a => some (.remote a)

/-- What is left of the moves of a course without applications, callers and times. -/
def shieldedMoves (hist : History) : List Move := hist.filterMap fun e => e.2.shielded?

theorem shieldedMoves_snoc (hist : History) (m : Manager) (a : Move) :
    shieldedMoves (hist ++ [(m, a)]) = shieldedMoves hist ++ a.shielded?.toList := by
  rw [shieldedMoves, List.filterMap_append]
  cases h : a.shielded? <;> simp [shieldedMoves, h]

section

variable {f : Format} {m m' q q' q₁ q₁' : Manager} {hist hist' : History} {a a' : Move}

theorem shieldedMoves_script (m : Manager) (cs : List Call) :
    shieldedMoves (m.script cs) = cs.filterMap fun c => (Move.call c).shielded? := by
  induction cs generalizing m with
  | nil => rfl
  | cons c cs ih =>
      rw [script, shieldedMoves, List.filterMap_cons, List.filterMap_cons, ← ih (c.run m).1]
      rfl

theorem shielded?_of_shielded? {o o' : Operation} (ho : o.shielded? = some o') :
    o'.shielded? = some o' := by
  cases o with
  | install a => cases ho
  | clear => cases ho
  | _ => obtain rfl := Option.some.inj ho; rfl

/-- In a test run a warning that is wanted makes no difference, and nothing comes in between. -/
theorem perform_shielded (htest : m.testMode.isActive = true) (site : Site) {o o' : Operation}
    (ho : o.shielded? = some o') (as as' : List Remote.Action) :
    m.perform site o as = m.perform site o' as' := by
  cases o with
  | network name message warning =>
      obtain rfl := Option.some.inj ho
      have htest' : (m.getLogger name).1.testMode.isActive = true := htest
      rw [perform_network, perform_network, network_of_active _ _ htest',
        network_of_active _ _ htest']
  | install a => exact absurd ho (by simp [Operation.shielded?])
  | clear => exact absurd ho (by simp [Operation.shielded?])
  | attach place s =>
      obtain rfl := Option.some.inj ho
      cases place <;> rfl
  | _ =>
      obtain rfl := Option.some.inj ho
      rfl

/-- **In a test run twins do the same at every operation** that is not about applications. -/
theorem twin_perform (h : Twin f m m') (htest : m.testMode.isActive = true)
    (htest' : m'.testMode.isActive = true) (site : Site) {o : Operation}
    (ho : o.shielded? ≠ none) :
    TwinOutcome f ((m.perform site o).1, (m.perform site o).2.1)
      ((m'.perform site o).1, (m'.perform site o).2.1) := by
  have hactive : ∀ name, (m.getLogger name).1.testMode.isActive = true := fun _ => htest
  have hactive' : ∀ name, (m'.getLogger name).1.testMode.isActive = true := fun _ => htest'
  cases o with
  | getLogger name => exact .quiet (h.getLogger name)
  | log name l message =>
      have hlog := twin_logAt (h.getLogger name) site (loggerName name) l message
      rw [perform_log, perform_log]
      exact ⟨hlog.twin, hlog.events⟩
  | notify name message =>
      have hlog := twin_logAt (h.getLogger name) site (loggerName name) Level.notify message
      rw [perform_notify, perform_notify, notify_of_active _ _ (hactive name),
        notify_of_active _ _ (hactive' name)]
      exact ⟨hlog.twin, hlog.events⟩
  | network name message warning =>
      have hlog := twin_logAt (h.getLogger name) site (loggerName name) Level.network message
      rw [perform_network, perform_network, network_of_active _ _ (hactive name),
        network_of_active _ _ (hactive' name)]
      exact ⟨hlog.twin, hlog.events⟩
  | setLoggerLevel name l =>
      rw [perform_setLoggerLevel, perform_setLoggerLevel]
      exact .quiet ((h.getLogger name).setLoggerLevel (loggerName name) l)
  | setLevel name l => exact .quiet { h with subtrees := congrArg (Table.set · name l) h.subtrees }
  | clearLevel name => exact .quiet { h with subtrees := congrArg (Table.erase · name) h.subtrees }
  | setRootLevel l => exact .quiet { h with rootLevel := rfl }
  | attach place s =>
      cases place with
      | none => exact .quiet { h with rootSinks := congrArg (· ++ [s]) h.rootSinks }
      | some name =>
          rw [perform_attach, perform_attach]
          exact .quiet ((h.getLogger name).addSink (loggerName name) s)
  | install a => exact absurd rfl ho
  | clear => exact absurd rfl ho

/-! ## Moves of twins -/

/-- Moves of which nothing is left concern who is installed, the stack and the time. -/
theorem exists_of_unshielded (hs : Step q a q₁) (ha : a.shielded? = none) :
    ∃ slot stack clock, q₁ = { q with slot, stack, clock } ∧ eventsIn (q, a) = [] := by
  cases hs with
  | tick now => exact ⟨_, _, _, rfl, rfl⟩
  | remote a hs hstep => cases ha
  | call c as =>
      obtain ⟨site, stack, o⟩ := c
      cases o with
      | install a => exact ⟨_, _, _, rfl, rfl⟩
      | clear => exact ⟨_, _, _, rfl, rfl⟩
      | _ => exact absurd ha (by simp [Move.shielded?, Operation.shielded?])

theorem twin_remote {b : Remote.Action} (hs : Step q (.remote b) q₁)
    (hs' : Step q' (.remote b) q₁') (h : Twin f q q') : Twin f q₁ q₁' := by
  cases hs with
  | @remote s s₁ out _ hremote hstep =>
      cases hs' with
      | @remote s' s₁' out' _ hremote' hstep' =>
          have hlike := h.remote
          rw [hremote, hremote'] at hlike
          cases hlike with
          | some hlike =>
              obtain ⟨t₁, out'', hsteps, hsink, hout⟩ := Remote.Sink.like_step
                (Remote.Sink.steps_of_step_eq hstep) hlike (.refl .refl b)
              obtain ⟨rfl, rfl⟩ := Prod.mk.inj
                (Option.some.inj (hsteps.step_eq.symm.trans hstep'))
              exact twin_withRemote h hsink hout

/-- **Moves of twins of which the same is left do the same.** -/
theorem twin_shieldedMove {x : Move} (hs : Step q a q₁) (hs' : Step q' a' q₁') (h : Twin f q q')
    (htest : q.testMode.isActive = true) (htest' : q'.testMode.isActive = true)
    (ha : a.shielded? = some x) (ha' : a'.shielded? = some x) :
    TwinOutcome f (q₁, eventsIn (q, a)) (q₁', eventsIn (q', a')) := by
  cases a with
  | tick now => cases ha
  | remote b =>
      obtain rfl := Option.some.inj ha
      cases a' with
      | tick now => cases ha'
      | remote b' =>
          obtain rfl : b' = b := by simpa [Move.shielded?] using ha'
          exact ⟨twin_remote hs hs' h, .nil⟩
      | call c' as' =>
          rw [Move.shielded?, Option.map_eq_some_iff] at ha'
          obtain ⟨_, -, hne⟩ := ha'
          cases hne
  | call c as =>
      rw [Move.shielded?, Option.map_eq_some_iff] at ha
      obtain ⟨o, ho, rfl⟩ := ha
      cases a' with
      | tick now => cases ha'
      | remote b' => exact absurd ha' (by simp [Move.shielded?])
      | call c' as' =>
          rw [Move.shielded?, Option.map_eq_some_iff] at ha'
          obtain ⟨o', ho', hsame⟩ := ha'
          obtain ⟨hsite, rfl⟩ : c'.site = c.site ∧ o' = o := by simpa using hsame
          cases hs
          cases hs'
          -- both come to the operation without applications, wherever they are made
          have hrun : c.run q as = { q with stack := c.stack }.perform c.site o' :=
            perform_shielded (m := { q with stack := c.stack }) htest c.site ho as []
          have hrun' : c'.run q' as' = { q' with stack := c'.stack }.perform c.site o' := by
            rw [← hsite]
            exact perform_shielded (m := { q' with stack := c'.stack }) htest' c'.site ho' as' []
          have hrestacked : Twin f { q with stack := c.stack } { q' with stack := c'.stack } :=
            { h with }
          have hpossible : o'.shielded? ≠ none := by
            rw [shielded?_of_shielded? ho]
            simp
          have hperform := twin_perform hrestacked htest htest' c.site hpossible
          rw [eventsIn, eventsIn, hrun, hrun']
          exact hperform

/-! ## Two courses -/

/-- **In test runs twins stay twins**, as long as the same is left of their courses. -/
theorem twins_of_shieldedMoves_eq (htwin : Twin f m m') (h : Course m hist q)
    (htest : m.testMode.isActive = true) (htest' : m'.testMode.isActive = true) :
    ∀ {hist' q'}, Course m' hist' q' → shieldedMoves hist = shieldedMoves hist' →
      TwinOutcome f (q, events hist) (q', events hist') := by
  induction h with
  | start =>
      -- nothing is left of the one course, so nothing of the other
      intro hist' q' h' hmoves
      induction h' with
      | start => exact .quiet htwin
      | @next hist' q' q₁' a' _ hstep' ih =>
          rw [shieldedMoves_snoc] at hmoves
          obtain ⟨hnone, ha'⟩ := List.append_eq_nil_iff.mp hmoves.symm
          obtain ⟨slot, stack, clock, rfl, hevents⟩ :=
            exists_of_unshielded hstep' (by simpa using ha')
          obtain ⟨hsofar, hsame⟩ := ih hnone.symm
          rw [events_snoc, hevents, List.append_nil]
          exact ⟨{ hsofar with }, hsame⟩
  | @next hist q q₁ a hcourse hstep ih =>
      intro hist' q' h' hmoves
      cases ha : a.shielded? with
      | none =>
          obtain ⟨slot, stack, clock, rfl, hevents⟩ := exists_of_unshielded hstep ha
          rw [shieldedMoves_snoc, ha, Option.toList_none, List.append_nil] at hmoves
          obtain ⟨hsofar, hsame⟩ := ih h' hmoves
          rw [events_snoc, hevents, List.append_nil]
          exact ⟨{ hsofar with }, hsame⟩
      | some x =>
          rw [shieldedMoves_snoc, ha, Option.toList_some] at hmoves
          -- the other course has this move too, and after it some of which nothing is left
          induction h' with
          | start => exact absurd hmoves (by simp [shieldedMoves])
          | @next hist' q' q₁' a' hcourse' hstep' ih' =>
              rw [shieldedMoves_snoc] at hmoves
              cases ha' : a'.shielded? with
              | none =>
                  obtain ⟨slot, stack, clock, rfl, hevents⟩ := exists_of_unshielded hstep' ha'
                  rw [ha', Option.toList_none, List.append_nil] at hmoves
                  obtain ⟨hsofar, hsame⟩ := ih' hmoves
                  rw [events_snoc hist', hevents, List.append_nil]
                  exact ⟨{ hsofar with }, hsame⟩
              | some x' =>
                  rw [ha', Option.toList_some] at hmoves
                  obtain ⟨hbefore, hx⟩ := List.append_inj' hmoves rfl
                  obtain rfl : x = x' := (List.cons.inj hx).1
                  obtain ⟨hsofar, hsame⟩ := ih hcourse' hbefore
                  have hq : q.testMode.isActive = true := by
                    rw [(setting_course hcourse).testMode, htest]
                  have hq' : q'.testMode.isActive = true := by
                    rw [(setting_course hcourse').testMode, htest']
                  obtain ⟨hnext, hlast⟩ := twin_shieldedMove hstep hstep' hsofar hq hq' ha ha'
                  rw [events_snoc, events_snoc]
                  exact ⟨hnext, List.rel_append hsame hlast⟩

/-! ## One course -/

/-- What a course in a test run leaves behind at applications: nothing. -/
structure Unescalated (m : Manager) (hist : History) (q : Manager) : Prop where
  untaken : takings (events hist) = []
  returns : completions hist = List.replicate (calls hist).length .done
  inbox : ∀ label, q.slot.inbox label = m.slot.inbox label
  escalated : q.metrics.escalated = m.metrics.escalated
  missed : q.metrics.missed = m.metrics.missed

theorem Unescalated.between (h : Unescalated m hist q) (hs : Step q a q') (ha : a.call? = none) :
    Unescalated m (hist ++ [(q, a)]) q' := by
  obtain ⟨clock, hstage⟩ := stage_between hs ha
  obtain ⟨hcalls, hevents, hcompletions⟩ := snoc_between hist q ha
  have hslot : q'.slot = q.slot := congrArg Stage.slot hstage
  refine ⟨hevents ▸ h.untaken, ?_, fun label => hslot ▸ h.inbox label,
    (congrArg Stage.escalated hstage).trans h.escalated,
    (congrArg Stage.missed hstage).trans h.missed⟩
  rw [hcompletions, hcalls, h.returns]

theorem unescalated_course (h : Course m hist q) (htest : m.testMode.isActive = true) :
    Unescalated m hist q := by
  induction h with
  | start => exact ⟨rfl, rfl, fun _ => rfl, rfl, rfl⟩
  | @next hist q q' a hcourse hstep ih =>
      cases hstep with
      | call c as =>
          have htest' : q.testMode.isActive = true := by
            rw [(setting_course hcourse).testMode, htest]
          obtain ⟨hstage, htaken, hdone⟩ := run_quiet (c := c) (Or.inr htest') as
          have hslot : (c.run q as).1.slot = c.operation.onSlot q.slot := congrArg Stage.slot hstage
          refine ⟨?_, ?_, fun label => ?_, (congrArg Stage.escalated hstage).trans ih.escalated,
            (congrArg Stage.missed hstage).trans ih.missed⟩
          · rw [events_snoc, takings_append, ih.untaken]
            exact htaken
          · rw [completions_snoc, ih.returns, calls_snoc, List.length_append,
              ← List.replicate_append_replicate, completion?, hdone]
            rfl
          · rw [hslot, Slot.inbox_onSlot, ih.inbox]
      | tick now => exact ih.between (.tick now) rfl
      | remote a hs hstep => exact ih.between (.remote a hs hstep) rfl

/--
**A test run shields the application.**

Whatever stands outside, at no call of the course is it called: with any other `Outside`
the call would come to the same. No application took anything, every call came back,
inboxes and both counters of escalations are as they were. A warning that is wanted at a
network trouble makes no difference. And a course in a test run that starts on a twin,
with any application's side, and of which the same is left, makes a twin of what this one
makes and consists of the same events, apart from times.
-/
theorem test_run_shields (h : Course m hist q) (htest : m.testMode.isActive = true) :
    (∀ p c as, (p, Move.call c as) ∈ hist →
      c.runWith .own p as = c.run p as ∧ ∀ out : Outside, c.runWith out p as = c.run p as)
      ∧ Unescalated m hist q
      ∧ (∀ site stack name message text as,
          (Call.mk site stack (.network name message (some text))).run q as
            = (Call.mk site stack (.network name message none)).run q as)
      ∧ ∀ m' hist' q', Course m' hist' q' → m'.testMode.isActive = true →
          Twin m.format m m' → shieldedMoves hist = shieldedMoves hist' →
          Twin m.format q q' ∧ List.Forall₂ (SameEvent m.format) (events hist) (events hist') := by
  have hactive : ∀ {hist q}, Course m hist q → q.testMode.isActive = true := by
    intro hist q h
    rw [(setting_course h).testMode, htest]
  refine ⟨fun p c as hmem => ?_, unescalated_course h htest,
    fun site stack name message text as => ?_, ?_⟩
  · obtain ⟨before, rest, heq⟩ := List.append_of_mem hmem
    exact ⟨runWith_own c p as, fun out => runWith_of_active (hactive (h.front heq).1) c as⟩
  · have hq := hactive h
    exact perform_shielded (m := { q with stack }) hq site rfl as as
  · intro m' hist' q' h' htest' htwin hmoves
    obtain ⟨htwin', hevents⟩ := twins_of_shieldedMoves_eq htwin h htest htest' h' hmoves
    exact ⟨htwin', hevents⟩

end

/-- A manager of a test binary that ships, with an application that breaks down on everything. -/
def testManager : Manager :=
  assemble .defaults
    { shippingPlan with
      testMode := .detect ["/work/target/debug/deps/app-0123456789abcdef"]
      slot := { current := some .panicking } }
    Level.info (some (.ofCapacity "records" 1))

/-- The same without an application, at another time. -/
def lonelyManager : Manager :=
  { testManager with
    accessor := .nowhere, slot := {}, testMode := .forced true
    locator := .fixed Location.unknown, captureStack := true
    clock := ⟨7, "2024-01-02 00:00:00", "2024-01-02 00:00:00,000"⟩ }

/-- Escalations among calls that bring the application and take it away. -/
def testCalls : List Call :=
  [.notify "app" "ready", .network "app" "lost" (some "offline"), .clear, .notify "app" "gone",
    .install .panicking, .log "app" Level.error "two"].map fun o =>
      { site := ⟨"app", 1⟩, operation := o }

/-- The same with no application and no warning, called from elsewhere. -/
def lonelyCalls : List Call :=
  [.notify "app" "ready", .network "app" "lost" none, .notify "app" "gone",
    .log "app" Level.error "two"].map fun o =>
      { site := ⟨"app", 1⟩, stack := [{ file := some "a.rs", function := none }], operation := o }

theorem twin_lonelyManager : Twin testManager.format testManager lonelyManager :=
  twin_restaged testManager _ _ _ _ _ _ _

/-- The application would break down over the first call. -/
theorem test_run_shields_panickingRun :
    ∃ hist q hist' q', Course testManager hist q ∧ Course lonelyManager hist' q'
      ∧ calls hist = testCalls ∧ calls hist' = lonelyCalls
      ∧ completions hist = List.replicate 6 .done
      ∧ takings (events hist) = []
      ∧ q.memory.map MemorySink.undated = q'.memory.map MemorySink.undated
      ∧ q.metrics = q'.metrics := by
  have h := course_of_calls testManager testCalls
  have h' := course_of_calls lonelyManager lonelyCalls
  have hactive : testManager.testMode.isActive = true := by decide +kernel
  have hactive' : lonelyManager.testMode.isActive = true := rfl
  obtain ⟨-, hnothing, -, htwins⟩ := test_run_shields h hactive
  have hmoves : shieldedMoves (script testManager testCalls)
      = shieldedMoves (script lonelyManager lonelyCalls) := by
    rw [shieldedMoves_script, shieldedMoves_script]
    rfl
  obtain ⟨htwin', -⟩ := htwins _ _ _ h' hactive' twin_lonelyManager hmoves
  exact ⟨_, _, _, _, h, h', rfl, rfl, hnothing.returns, hnothing.untaken, htwin'.memory,
    htwin'.metrics⟩

end Manager

end Herald
