import Herald.Proofs.Manager.Isolation

/-!
# Escalations reach whoever is there

Outside test runs every notification, and every network trouble with a text, is handed
to the application that is installed at that moment, or counted as missed when there is
none; nothing else ever reaches an application. Which thresholds are set and what sinks
do with the records of the same calls makes no difference.

What one call leaves behind is `Leaves`: by `run_quiet` and `run_escalates` it is decided
by the stage alone. Over a course this adds up to inboxes and counters. For two courses
the applications' side is run by itself (`handed`): there only the calls count that ask
for an escalation or change who is installed.
-/

namespace Herald

def Escalation.kinds : List String := ["warning", "notify"]

/-- The kind of escalation that an operation asks for. -/
def Operation.kind? : Operation → Option String
  | .notify _ _ => some "notify"
  | .network _ _ (some _) => some "warning"
  | _ => none

/-- Who is installed after an operation. -/
def Operation.installs : Operation → Option Application → Option Application
  | .install a, _ => some a
  | .clear, _ => none
  | _, current => current

/-- Whether an operation escalates or changes who is installed. -/
def Operation.concernsApplications : Operation → Bool
  | .notify _ _ | .network _ _ (some _) | .install _ | .clear => true
  | _ => false

theorem Accessor.find_current (accessor : Accessor) (s : Slot) :
    accessor.find s = accessor.find ⟨s.current, []⟩ := by
  cases accessor <;> rfl

theorem Escalation.kind_mem (e : Escalation) : e.kind ∈ kinds := by
  cases e with
  | warning w => exact .head _
  | notify text => exact .tail _ (.head _)

/-- The two kinds do not share a counter. -/
theorem Escalation.digest_kind (e : Escalation) {k : String} (hk : k ∈ kinds) :
    Text.digest e.kind = Text.digest k ↔ e.kind = k := by
  refine ⟨?_, congrArg _⟩
  have hinj : ∀ k ∈ kinds, ∀ k' ∈ kinds, Text.digest k = Text.digest k' → k = k' := by
    decide +kernel
  exact hinj _ e.kind_mem k hk

theorem Tally.count_bump_kind (t : Tally) (e : Escalation) {k : String}
    (hk : k ∈ Escalation.kinds) : (t.bump e.kind).count k = t.count k + [e.kind].count k := by
  rw [Tally.count_bump, List.count_singleton]
  simp only [e.digest_kind hk, beq_iff_eq]

namespace Slot

theorem inbox_set (s : Slot) (current : Option Application) (label l : String)
    (es : List Escalation) :
    (Slot.mk current (Table.set s.inboxes label es)).inbox l
      = if label = l then es else s.inbox l := by
  rw [inbox, Table.get?_set]
  split <;> rfl

theorem inbox_deposit (s : Slot) (label l : String) (e : Escalation) :
    (s.deposit label e).inbox l = s.inbox l ++ if label = l then [e] else [] := by
  rw [deposit, inbox_set]
  split
  case isTrue h => rw [h]
  case isFalse _ => rw [List.append_nil]

theorem inbox_onSlot (s : Slot) (o : Operation) (l : String) :
    (o.onSlot s).inbox l = s.inbox l := by
  cases o with
  | install a =>
      cases a with
      | panicking => rfl
      | recording label =>
          change (Slot.mk _ (Table.set s.inboxes label (s.inbox label))).inbox l = _
          rw [inbox_set]
          split
          case isTrue h => rw [h]
          case isFalse _ => rfl
  | _ => rfl

theorem current_onSlot (s : Slot) (o : Operation) :
    (o.onSlot s).current = o.installs s.current := by
  cases o with
  | install a => cases a <;> rfl
  | _ => rfl

end Slot

namespace Manager

/-- The application that an escalation would find now. -/
def found (m : Manager) : Option Application := m.accessor.find m.slot

def installed (current : Option Application) (os : List Operation) : Option Application :=
  os.foldl (fun current o => o.installs current) current

/-! ## One call -/

/-- What a call leaves behind of escalations: who took what, and which kinds were lost. -/
structure Leaves (m : Manager) (c : Call) (as : List Remote.Action)
    (taken : List (String × Escalation)) (lost : List String) : Prop where
  takings_eq : takings (c.run m as).2.1 = taken
  inbox : ∀ label, (c.run m as).1.slot.inbox label
    = m.slot.inbox label ++ (taken.filter fun d => d.1 = label).map Prod.snd
  escalated : ∀ k ∈ Escalation.kinds, (c.run m as).1.metrics.escalated.count k
    = m.metrics.escalated.count k + (taken.map fun d => d.2.kind).count k
  missed : ∀ k ∈ Escalation.kinds, (c.run m as).1.metrics.missed.count k
    = m.metrics.missed.count k + lost.count k

section

variable {m m' q q' : Manager} {hist hist' : History} {c : Call} {e : Escalation} {label : String}
  {as : List Remote.Action}

theorem leaves_of_none (h : c.escalation? m = none) : Leaves m c as [] [] := by
  obtain ⟨hstage, huntaken, -⟩ := run_quiet (Or.inl h) as
  have hslot : (c.run m as).1.slot = c.operation.onSlot m.slot := congrArg Stage.slot hstage
  have hescalated : (c.run m as).1.metrics.escalated = m.metrics.escalated :=
    congrArg Stage.escalated hstage
  have hmissed : (c.run m as).1.metrics.missed = m.metrics.missed := congrArg Stage.missed hstage
  refine ⟨huntaken, fun l => ?_, fun k _ => ?_, fun k _ => ?_⟩
  · rw [hslot, Slot.inbox_onSlot]
    exact (List.append_nil _).symm
  · rw [hescalated]
    rfl
  · rw [hmissed]
    rfl

theorem escalate_recording (h : m.found = some (.recording label)) (e : Escalation) :
    m.escalate e =
      ({ m with
          slot := m.slot.deposit label e
          metrics := { m.metrics with escalated := m.metrics.escalated.bump e.kind } },
        [.escalated label e], .done) := by
  unfold escalate Escalation.deliver
  rw [show m.accessor.find m.slot = _ from h]

theorem escalate_nobody (h : m.found = none) (e : Escalation) :
    m.escalate e =
      ({ m with metrics := { m.metrics with missed := m.metrics.missed.bump e.kind } },
        [.said e.missedDiagnostic], .done) := by
  unfold escalate Escalation.deliver
  rw [show m.accessor.find m.slot = _ from h]

theorem current_escalate (m : Manager) (e : Escalation) :
    (m.escalate e).1.slot.current = m.slot.current := by
  unfold escalate Escalation.deliver
  cases m.accessor.find m.slot with
  | none => rfl
  | some a => cases a <;> rfl

theorem found_of_stage (h : m'.stage = { m.stage with stack := c.stack }) : m'.found = m.found := by
  have haccessor : m'.accessor = m.accessor := congrArg Stage.accessor h
  have hslot : m'.slot = m.slot := congrArg Stage.slot h
  rw [found, found, haccessor, hslot]

theorem leaves_of_found (htest : m.testMode.isActive = false) (he : c.escalation? m = some e)
    (hfound : m.found = some (.recording label)) : Leaves m c as [(label, e)] [] := by
  obtain ⟨t, ht, hrun⟩ := run_escalates htest he as
  rw [escalate_recording ((found_of_stage ht.stage_eq).trans hfound)] at hrun
  refine ⟨?_, fun l => ?_, fun k hk => ?_, fun k _ => ?_⟩
  · rw [hrun, takings_append, ht.untaken]
    rfl
  · rw [hrun]
    dsimp only
    rw [Slot.inbox_deposit, ht.slot]
    by_cases hl : label = l <;> simp [hl]
  · rw [hrun]
    dsimp only
    rw [Tally.count_bump_kind _ _ hk, ht.escalated]
    rfl
  · rw [hrun]
    dsimp only
    rw [ht.missed]
    rfl

theorem leaves_of_nobody (htest : m.testMode.isActive = false) (he : c.escalation? m = some e)
    (hfound : m.found = none) : Leaves m c as [] [e.kind] := by
  obtain ⟨t, ht, hrun⟩ := run_escalates htest he as
  rw [escalate_nobody ((found_of_stage ht.stage_eq).trans hfound)] at hrun
  refine ⟨?_, fun l => ?_, fun k _ => ?_, fun k hk => ?_⟩
  · rw [hrun, takings_append, ht.untaken]
    rfl
  · rw [hrun]
    dsimp only
    rw [ht.slot]
    exact (List.append_nil _).symm
  · rw [hrun]
    dsimp only
    rw [ht.escalated]
    rfl
  · rw [hrun]
    dsimp only
    rw [Tally.count_bump_kind _ _ hk, ht.missed]

/-! ## Who is there -/

/-- What an application takes when an escalation finds it, or fails to find one. -/
def handedTo : Option Application → Option Escalation → List (String × Escalation)
  | some (.recording label), some e => [(label, e)]
  | _, _ => []

theorem handedTo_none (a : Option Application) : handedTo a none = [] := by
  unfold handedTo
  split <;> simp_all

theorem takings_run (htest : m.testMode.isActive = false) (c : Call) (as : List Remote.Action) :
    takings (c.run m as).2.1 = handedTo m.found (c.escalation? m) := by
  cases he : c.escalation? m with
  | none =>
      rw [handedTo_none]
      exact (leaves_of_none he : Leaves m c as [] []).takings_eq
  | some e =>
      cases hfound : m.found with
      | none => exact (leaves_of_nobody htest he hfound : Leaves m c as [] [e.kind]).takings_eq
      | some a =>
          cases a with
          | recording label =>
              exact (leaves_of_found htest he hfound : Leaves m c as [(label, e)] []).takings_eq
          | panicking =>
              obtain ⟨t, ht, hrun⟩ := run_escalates htest he as
              have hpanic : t.1.accessor.find t.1.slot = some .panicking :=
                (found_of_stage ht.stage_eq).trans hfound
              rw [hrun]
              unfold escalate Escalation.deliver
              rw [hpanic, takings_append, ht.untaken]
              rfl

theorem installs_of_escalation? (he : c.escalation? m = some e) (a : Option Application) :
    c.operation.installs a = a := by
  unfold Call.escalation? at he
  split at he
  case h_1 h => rw [h]; rfl
  case h_2 h => rw [h]; rfl
  case h_3 => exact absurd he (by simp)

/-- The kind of an escalation that finds nobody. -/
def lost : Option Application → Option Escalation → List String
  | none, some e => [e.kind]
  | _, _ => []

theorem Calm.found (h : Calm m) : m.found ≠ some .panicking := by
  unfold Manager.found
  cases m.accessor with
  | slot => exact h
  | nowhere => exact fun hnone => absurd hnone (by simp [Accessor.find])

/-- **One call: what was to be taken is taken or lost**, and never both. -/
theorem leaves_run (htest : m.testMode.isActive = false) (hcalm : Calm m) (c : Call)
    (as : List Remote.Action) :
    Leaves m c as (handedTo m.found (c.escalation? m)) (lost m.found (c.escalation? m)) := by
  cases he : c.escalation? m with
  | none =>
      have hlost : lost m.found none = [] := by cases m.found <;> rfl
      rw [handedTo_none, hlost]
      exact leaves_of_none he
  | some e =>
      cases hfound : m.found with
      | none => exact leaves_of_nobody htest he hfound
      | some a =>
          cases a with
          | recording label => exact leaves_of_found htest he hfound
          | panicking => exact absurd hfound hcalm.found

theorem kind?_operation (c : Call) (m : Manager) :
    c.operation.kind? = (c.escalation? m).map Escalation.kind := by
  obtain ⟨site, stack, o⟩ := c
  cases o with
  | network name message warning => cases warning <;> rfl
  | _ => rfl

theorem count_handedTo_lost (hcalm : Calm m) (c : Call) (k : String) :
    ((handedTo m.found (c.escalation? m)).map fun d => d.2.kind).count k
        + (lost m.found (c.escalation? m)).count k
      = c.operation.kind?.toList.count k := by
  rw [kind?_operation c m]
  cases c.escalation? m with
  | none => cases m.found <;> simp [handedTo_none, lost]
  | some e =>
      cases hfound : m.found with
      | none => exact Nat.zero_add _
      | some a =>
          cases a with
          | recording label => rfl
          | panicking => exact absurd hfound hcalm.found

/-- What a course does not change of a manager, and who is installed after operations on it. -/
structure Setting (m : Manager) (os : List Operation) (q : Manager) : Prop where
  accessor : q.accessor = m.accessor
  testMode : q.testMode = m.testMode
  locator : q.locator = m.locator
  captureStack : q.captureStack = m.captureStack
  current : q.slot.current = installed m.slot.current os

theorem setting_run (m : Manager) (c : Call) (as : List Remote.Action) :
    Setting m [c.operation] (c.run m as).1 := by
  have hquiet : c.escalation? m = none ∨ m.testMode.isActive = true →
      Setting m [c.operation] (c.run m as).1 := by
    intro h
    obtain ⟨hstage, -⟩ := run_quiet h as
    have hslot : (c.run m as).1.slot = c.operation.onSlot m.slot := congrArg Stage.slot hstage
    refine ⟨congrArg Stage.accessor hstage, congrArg Stage.testMode hstage,
      congrArg Stage.locator hstage, congrArg Stage.captureStack hstage, ?_⟩
    rw [hslot, Slot.current_onSlot]
    rfl
  cases he : c.escalation? m with
  | none => exact hquiet (Or.inl he)
  | some e =>
      by_cases htest : m.testMode.isActive = true
      · exact hquiet (Or.inr htest)
      · obtain ⟨t, ht, hrun⟩ := run_escalates (Bool.eq_false_iff.mpr htest) he as
        rw [hrun]
        refine ⟨congrArg Stage.accessor ht.stage_eq, congrArg Stage.testMode ht.stage_eq,
          congrArg Stage.locator ht.stage_eq, congrArg Stage.captureStack ht.stage_eq, ?_⟩
        dsimp only
        rw [current_escalate, ht.slot]
        exact (installs_of_escalation? he _).symm

theorem Setting.between {os : List Operation} {a : Move} (h : Setting m os q) (hs : Step q a q')
    (ha : a.call? = none) : Setting m (os ++ (a.call?.map Call.operation).toList) q' := by
  obtain ⟨clock, hstage⟩ := stage_between hs ha
  rw [ha, Option.map_none, Option.toList_none, List.append_nil]
  exact ⟨(congrArg Stage.accessor hstage).trans h.accessor,
    (congrArg Stage.testMode hstage).trans h.testMode,
    (congrArg Stage.locator hstage).trans h.locator,
    (congrArg Stage.captureStack hstage).trans h.captureStack,
    (congrArg (fun s : Stage => s.slot.current) hstage).trans h.current⟩

theorem setting_course (h : Course m hist q) : Setting m (operations hist) q := by
  induction h with
  | start => exact ⟨rfl, rfl, rfl, rfl, rfl⟩
  | @next hist q q' a _ hstep ih =>
      rw [operations_snoc]
      cases hstep with
      | call c as =>
          have hrun := setting_run q c as
          refine ⟨hrun.accessor.trans ih.accessor, hrun.testMode.trans ih.testMode,
            hrun.locator.trans ih.locator, hrun.captureStack.trans ih.captureStack, ?_⟩
          rw [hrun.current, ih.current, installed, installed, installed, List.foldl_append]
          rfl
      | tick now => exact ih.between (.tick now) rfl
      | remote a hs hstep => exact ih.between (.remote a hs hstep) rfl

/-! ## All calls of a course -/

/-- The part of a course in front of one of its moves. -/
theorem Course.front (h : Course m hist q) :
    ∀ {before : History} {p : Manager} {a : Move} {rest : History},
      hist = before ++ (p, a) :: rest → Course m before p ∧ ∃ p', Step p a p' := by
  induction h with
  | start => intro before p a rest heq; exact absurd heq (by simp)
  | @next hist q q' b hcourse hstep ih =>
      intro before p a rest heq
      rcases List.eq_nil_or_concat rest with rfl | ⟨rest', last, rfl⟩
      · obtain ⟨rfl, hlast⟩ := List.append_inj' heq rfl
        obtain ⟨rfl, rfl⟩ := Prod.mk.inj (List.cons.inj hlast).1
        exact ⟨hcourse, q', hstep⟩
      · -- the course had this part before its last move
        rw [List.concat_eq_append, ← List.cons_append, ← List.append_assoc] at heq
        obtain ⟨rfl, -⟩ := List.append_inj' heq rfl
        exact ih rfl

/-- What is to be taken of a move by the application that is there. -/
def owedIn : Manager × Move → List (String × Escalation)
  | (m, .call c _) => handedTo m.found (c.escalation? m)
  | _ => []

/-- What is to be taken in a course, by whom, in the order of the calls. -/
def owed (hist : History) : List (String × Escalation) := hist.flatMap owedIn

theorem owed_snoc (hist : History) (e : Manager × Move) :
    owed (hist ++ [e]) = owed hist ++ owedIn e := by
  simp [owed]

/-- What has become of the escalations in a course. -/
structure Handed (m : Manager) (hist : History) (q : Manager) : Prop where
  takings_eq : takings (events hist) = owed hist
  inbox : ∀ label, q.slot.inbox label
    = m.slot.inbox label ++ ((owed hist).filter fun d => d.1 = label).map Prod.snd
  counted : ∀ k ∈ Escalation.kinds,
    q.metrics.escalated.count k + q.metrics.missed.count k
      = m.metrics.escalated.count k + m.metrics.missed.count k
        + ((operations hist).filterMap Operation.kind?).count k

theorem Handed.between {a : Move} (h : Handed m hist q) (hs : Step q a q')
    (ha : a.call? = none) : Handed m (hist ++ [(q, a)]) q' := by
  obtain ⟨clock, hstage⟩ := stage_between hs ha
  obtain ⟨hcalls, hevents, -⟩ := snoc_between hist q ha
  have howed : owed (hist ++ [(q, a)]) = owed hist := by
    cases a with
    | call c => cases ha
    | _ => exact (owed_snoc hist _).trans (List.append_nil _)
  have hslot : q'.slot = q.slot := congrArg Stage.slot hstage
  have hescalated : q'.metrics.escalated = q.metrics.escalated := congrArg Stage.escalated hstage
  have hmissed : q'.metrics.missed = q.metrics.missed := congrArg Stage.missed hstage
  refine ⟨?_, fun label => ?_, fun k hk => ?_⟩
  · rw [hevents, howed, h.takings_eq]
  · rw [howed, hslot, h.inbox]
  · rw [operations, hcalls, hescalated, hmissed]
    exact h.counted k hk

theorem handed_course (h : Course m hist q) (htest : m.testMode.isActive = false) (hcalm : Calm m)
    (hinstall : ∀ c ∈ calls hist, c.operation ≠ .install .panicking) : Handed m hist q := by
  induction h with
  | start => exact ⟨rfl, fun label => (List.append_nil _).symm, fun k _ => rfl⟩
  | @next hist q q' a hcourse hstep ih =>
      rw [calls_snoc] at hinstall
      have hinstall' : ∀ c ∈ calls hist, c.operation ≠ .install .panicking :=
        fun c hc => hinstall c (List.mem_append_left _ hc)
      have ih' := ih hinstall'
      cases hstep with
      | call c as =>
          have htest' : q.testMode.isActive = false := by
            rw [(setting_course hcourse).testMode, htest]
          have hcalm' := (calm_course hcourse hcalm hinstall').1
          have hrun := leaves_run htest' hcalm' c as
          refine ⟨?_, fun label => ?_, fun k hk => ?_⟩
          · rw [events_snoc, takings_append, owed_snoc, ih'.takings_eq]
            exact congrArg _ hrun.takings_eq
          · rw [hrun.inbox, ih'.inbox, owed_snoc, List.filter_append, List.map_append,
              List.append_assoc]
            rfl
          · have hsum := count_handedTo_lost hcalm' c k
            have hsofar := ih'.counted k hk
            rw [hrun.escalated k hk, hrun.missed k hk, operations_snoc, List.filterMap_append,
              List.count_append]
            -- of each kind one is delivered or missed in this call if it asks for one
            have hlast : (((Move.call c as).call?.map Call.operation).toList.filterMap
                Operation.kind?) = c.operation.kind?.toList := by
              cases hkind : c.operation.kind? <;> simp [Move.call?, hkind]
            rw [hlast]
            omega
      | tick now => exact ih'.between (.tick now) rfl
      | remote a hs hstep => exact ih'.between (.remote a hs hstep) rfl

/-! ## The applications' side by itself -/

/-- The escalation that a call asks for, without the time. -/
def Call.undated? (locator : Locator) (capture : Bool) (c : Call) : Option Escalation :=
  match c.operation with
  | .notify _ message => some (.notify message)
  | .network name _ (some text) =>
    some (.warning ⟨0, loggerName name, locator.locate capture c.stack, text⟩)
  | _ => none

/-- What applications are handed in calls, told from who is installed at first. -/
def handed (accessor : Accessor) (locator : Locator) (capture : Bool) :
    Option Application → List Call → List (String × Escalation)
  | _, [] => []
  | current, c :: rest =>
    handedTo (accessor.find ⟨current, []⟩) (c.undated? locator capture)
      ++ handed accessor locator capture (c.operation.installs current) rest

/-- What applications took in a course, in order and without the times. -/
def told (hist : History) : List (String × Escalation) :=
  hist.flatMap fun e => (takings (eventsIn e)).map fun d => (d.1, d.2.undated e.1.clock)

theorem told_snoc (hist : History) (e : Manager × Move) :
    told (hist ++ [e])
      = told hist ++ (takings (eventsIn e)).map fun d => (d.1, d.2.undated e.1.clock) := by
  simp [told]

theorem undated_escalation? (c : Call) (m : Manager) :
    (c.escalation? m).map (Escalation.undated m.clock) = c.undated? m.locator m.captureStack := by
  obtain ⟨site, stack, o⟩ := c
  cases o with
  | notify name message => exact congrArg some (undated_notify m.clock message)
  | network name message warning => cases warning <;> rfl
  | _ => rfl

theorem map_handedTo (a : Option Application) (e? : Option Escalation)
    (f : Escalation → Escalation) :
    (handedTo a e?).map (fun d => (d.1, f d.2)) = handedTo a (e?.map f) := by
  cases e? with
  | none => rw [handedTo_none, Option.map_none, handedTo_none]; rfl
  | some e =>
      cases a with
      | none => rfl
      | some a => cases a <;> rfl

section

variable {accessor : Accessor} {locator : Locator} {capture : Bool}

theorem handed_snoc (current : Option Application) (cs : List Call) (c : Call) :
    handed accessor locator capture current (cs ++ [c])
      = handed accessor locator capture current cs
        ++ handedTo (accessor.find ⟨installed current (cs.map Call.operation), []⟩)
            (c.undated? locator capture) := by
  induction cs generalizing current with
  | nil => exact List.append_nil _
  | cons c' cs ih => rw [List.cons_append, handed, handed, ih, List.append_assoc]; rfl

/-- Calls that concern no application may be left out. -/
theorem handed_filter (current : Option Application) (cs : List Call) :
    handed accessor locator capture current (cs.filter fun c => c.operation.concernsApplications)
      = handed accessor locator capture current cs := by
  induction cs generalizing current with
  | nil => rfl
  | cons c cs ih =>
      rw [List.filter_cons]
      split
      case isTrue _ => rw [handed, handed, ih]
      case isFalse h =>
        have hnothing : c.undated? locator capture = none
            ∧ c.operation.installs current = current := by
          obtain ⟨site, stack, o⟩ := c
          cases o with
          | network name message warning =>
              cases warning with
              | none => exact ⟨rfl, rfl⟩
              | some text => exact absurd rfl h
          | notify name message => exact absurd rfl h
          | install a => exact absurd rfl h
          | clear => exact absurd rfl h
          | _ => exact ⟨rfl, rfl⟩
        rw [handed, hnothing.1, hnothing.2, handedTo_none, List.nil_append, ih]

end

theorem told_course (h : Course m hist q) (htest : m.testMode.isActive = false) :
    told hist = handed m.accessor m.locator m.captureStack m.slot.current (calls hist) := by
  induction h with
  | start => rfl
  | @next hist q q' a hcourse hstep ih =>
      rw [told_snoc, calls_snoc, ih]
      cases hstep with
      | call c as =>
          have hsetting := setting_course hcourse
          have htest' : q.testMode.isActive = false := by rw [hsetting.testMode, htest]
          have htook : takings (eventsIn (q, .call c as)) = handedTo q.found (c.escalation? q) :=
            takings_run htest' c as
          -- who is found now depends on nothing but the operations so far
          rw [Move.call?, Option.toList_some, handed_snoc, htook, map_handedTo,
            undated_escalation?, hsetting.locator, hsetting.captureStack, found,
            Accessor.find_current, hsetting.accessor, hsetting.current]
          rfl
      | tick now => exact (List.append_nil _).trans (congrArg _ (List.append_nil _)).symm
      | remote a hs hstep => exact (List.append_nil _).trans (congrArg _ (List.append_nil _)).symm

/--
**Outside test runs, what a call escalates reaches whoever is there, once, or is counted
as missed.**

No application breaks down. Every call for an escalation finds the application that was
installed last: either that one takes exactly this escalation, and it is counted as
delivered, or there is none, and it is counted as missed. No other call reaches an
application. So inboxes grow by what is due to them, in the order of the calls, and the
two counters of a kind together by the calls of that kind. Another manager, with other
thresholds and sinks and whatever is done to them, tells applications the same, as long
as the calls that concern them are the same.
-/
theorem escalations_exactly_once (h : Course m hist q) (htest : m.testMode.isActive = false)
    (hcalm : Calm m) (hinstall : ∀ c ∈ calls hist, c.operation ≠ .install .panicking) :
    (∀ before p c as rest, hist = before ++ (p, .call c as) :: rest →
      p.slot.current = installed m.slot.current (operations before)
        ∧ (c.escalation? p = none → Leaves p c as [] [])
        ∧ ∀ e, c.escalation? p = some e →
            Xor (∃ label, p.found = some (.recording label) ∧ Leaves p c as [(label, e)] [])
              (p.found = none ∧ Leaves p c as [] [e.kind]))
      ∧ (∀ label, q.slot.inbox label
          = m.slot.inbox label ++ ((owed hist).filter fun d => d.1 = label).map Prod.snd)
      ∧ (∀ k ∈ Escalation.kinds, q.metrics.escalated.count k + q.metrics.missed.count k
          = m.metrics.escalated.count k + m.metrics.missed.count k
            + ((operations hist).filterMap Operation.kind?).count k)
      ∧ (∀ m' hist' q', Course m' hist' q' → m'.testMode.isActive = false →
          m'.accessor = m.accessor → m'.slot.current = m.slot.current →
          m'.locator = m.locator → m'.captureStack = m.captureStack →
          (calls hist').filter (fun c => c.operation.concernsApplications)
            = (calls hist).filter (fun c => c.operation.concernsApplications) →
          told hist' = told hist) := by
  have hall := handed_course h htest hcalm hinstall
  refine ⟨fun before p c as rest heq => ?_, hall.inbox, hall.counted, ?_⟩
  · obtain ⟨hbefore, -⟩ := h.front heq
    have hsetting := setting_course hbefore
    have htest' : p.testMode.isActive = false := by rw [hsetting.testMode, htest]
    have hinstall' : ∀ c ∈ calls before, c.operation ≠ .install .panicking := by
      intro c' hc'
      refine hinstall c' ?_
      rw [heq, calls, List.filterMap_append]
      exact List.mem_append_left _ hc'
    have hcalm' := (calm_course hbefore hcalm hinstall').1
    refine ⟨hsetting.current, leaves_of_none, fun e he => ?_⟩
    cases hfound : p.found with
    | none => exact Or.inr ⟨⟨rfl, leaves_of_nobody htest' he hfound⟩, by simp⟩
    | some a =>
        cases a with
        | recording label => exact Or.inl ⟨⟨label, rfl, leaves_of_found htest' he hfound⟩, by simp⟩
        | panicking => exact absurd hfound hcalm'.found
  · -- in both courses applications are told what `handed` says of the same calls
    intro m' hist' q' h' htest' haccessor hcurrent hlocator hcapture hsame
    rw [told_course h htest, told_course h' htest', haccessor, hlocator, hcapture, hcurrent,
      ← handed_filter _ (calls hist), ← hsame, handed_filter]

end

/-- Calls on a manager where only critical messages pass; the host comes late and leaves early. -/
def guestCalls : List Call :=
  [.network "app" "lost" (some "early"), .install (.recording "host"), .notify "app" "ready",
    .network "app" "lost" (some "late"), .log "app" Level.critical "broken", .clear,
    .notify "app" "gone"].map fun o => { site := ⟨"app", 1⟩, operation := o }

/-- The same among others, where everything passes. -/
def guestCallsAmongOthers : List Call :=
  ([.setRootLevel Level.debug, .attach none .console].map fun o =>
    { site := ⟨"app", 1⟩, operation := o }) ++ guestCalls

theorem escalations_exactly_once_guestRun :
    ∃ m hist q m' hist' q', Course m hist q ∧ Course m' hist' q'
      ∧ calls hist = guestCalls ∧ calls hist' = guestCallsAmongOthers
      ∧ q.slot.inbox "host" = [.notify "(2024-01-01 12:00:00) ready",
          .warning ⟨1, "app", Location.unknown, "late"⟩]
      ∧ q.metrics.escalated.count "notify" + q.metrics.missed.count "notify" = 2
      ∧ q.metrics.escalated.count "warning" + q.metrics.missed.count "warning" = 2
      ∧ told hist' = told hist := by
  have h := course_of_calls (assemble .defaults localPlan Level.critical none) guestCalls
  have h' := course_of_calls
    (assemble .defaults shippingPlan Level.info (some (.ofCapacity "records" 1)))
    guestCallsAmongOthers
  obtain ⟨-, hinbox, hcounted, htold⟩ := escalations_exactly_once h rfl
    (by simp [Calm, assemble, localPlan]) (by
      have hinstall : ∀ c ∈ guestCalls, c.operation ≠ .install .panicking := by decide
      exact hinstall)
  refine ⟨_, _, _, _, _, _, h, h', rfl, rfl, ?_, ?_, ?_, htold _ _ _ h' rfl rfl rfl rfl rfl rfl⟩
  · rw [hinbox "host"]
    rfl
  · rw [hcounted "notify" (by decide)]
    rfl
  · rw [hcounted "warning" (by decide)]
    rfl

end Manager

end Herald
