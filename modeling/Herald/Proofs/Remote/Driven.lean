import Herald.Proofs.Remote.Step
import Herald.Remote.Uplink

/-!
# A driven sink only runs

`Uplink` lets a caller and the worker take turns. Whatever it does to its sink is
a run: each of its operations leads from one state of the sink to the next by
steps, and the signals it gives back are those of the steps. So what holds of all
runs holds of every sink that is driven this way, and nobody has to look at the
order of the turns.
-/

namespace Herald.Remote

namespace Sink

variable {s s' s'' : Sink} {out out' : List Signal}

theorem Run.append {as as' : List Action} (h : Run s as out s') (h' : Run s' as' out' s'') :
    Run s (as ++ as') (out ++ out') s'' := by
  induction h' with
  | start => simpa using h
  | next _ hs ih => simpa [List.append_assoc] using Run.next ih hs

/-- Some run leads from one state to the other and lets exactly this be seen. -/
def Leads (s : Sink) (out : List Signal) (s' : Sink) : Prop := ∃ as, Run s as out s'

theorem Leads.refl (s : Sink) : Leads s [] s := ⟨[], .start⟩

theorem Leads.trans (h : Leads s out s') (h' : Leads s' out' s'') :
    Leads s (out ++ out') s'' := by
  obtain ⟨as, hr⟩ := h
  obtain ⟨as', hr'⟩ := h'
  exact ⟨as ++ as', hr.append hr'⟩

theorem Leads.step {a : Action} (hs : s.step a = some (s', out)) : Leads s out s' := by
  have h : Run s ([] ++ [a]) ([] ++ out) s' := .next .start hs
  exact ⟨_, by simpa using h⟩

/-- A run that goes on this way. -/
theorem Run.leads {as : List Action} (h : Run s as out s') (h' : Leads s' out' s'') :
    ∃ as', Run s (as ++ as') (out ++ out') s'' := by
  obtain ⟨as', hr⟩ := h'
  exact ⟨as', h.append hr⟩

theorem leads_attempt (s : Sink) (a : Action) : Leads s (s.attempt a).2 (s.attempt a).1 := by
  unfold attempt
  cases hs : s.step a with
  | none => exact .refl s
  | some r => exact .step hs

theorem leads_emit (s : Sink) (m : Message) : Leads s (s.emit m).2 (s.emit m).1 :=
  (leads_attempt s (.offer m)).trans (leads_attempt _ .count)

end Sink

namespace Uplink

open Herald.Remote.Sink (Leads leads_attempt)

variable {u u' : Uplink} {out : List Signal}

theorem leads_attempt (u : Uplink) (a : Action) :
    Leads u.sink (u.attempt a).2 (u.attempt a).1.sink :=
  Sink.leads_attempt u.sink a

theorem leads_work? (h : u.work? = some (u', out)) : Leads u.sink out u'.sink := by
  unfold work? at h
  split at h
  · -- the transport returns from a publish that it held
    obtain ⟨o, _, he⟩ := Option.map_eq_some_iff.mp h
    cases he
    exact Uplink.leads_attempt u _
  · split at h
    · cases h
    · rename_i sink signals hstep
      have htake : Leads u.sink signals sink := .step hstep
      split at h
      · dsimp only at h
        split at h
        · cases h; exact htake
        · cases h; exact htake.trans (Sink.leads_attempt sink _)
      · cases h; exact htake

theorem leads_run (u : Uplink) (moves : Nat) : Leads u.sink (u.run moves).2 (u.run moves).1.sink := by
  induction moves generalizing u with
  | zero => exact .refl _
  | succ moves ih =>
      unfold run
      split
      · exact .refl _
      · rename_i u' signals hw
        exact (leads_work? hw).trans (ih u')

theorem leads_settle (u : Uplink) : Leads u.sink u.settle.2 u.settle.1.sink := leads_run u _

theorem leads_turn (u : Uplink) (a : Action) :
    Leads u.sink (u.turn a).2 (u.turn a).1.sink :=
  (Uplink.leads_attempt u a).trans (leads_settle _)

theorem leads_turns (u : Uplink) (as : List Action) :
    Leads u.sink (u.turns as).2 (u.turns as).1.sink := by
  induction as generalizing u with
  | nil => exact .refl _
  | cons a as ih => exact (leads_turn u a).trans (ih _)

theorem turns_cons (u : Uplink) (a : Action) (as : List Action) :
    u.turns (a :: as)
      = (((u.turn a).1.turns as).1, (u.turn a).2 ++ ((u.turn a).1.turns as).2) := by
  rw [turns]

/-- The moves of a close. -/
def closeMoves (t : Nat) : List Action := [.mark t, .proceed t, .sendStop t, .join t, .expire t]

theorem close_eq (u : Uplink) :
    u.close = ((u.turns (.beginClose :: closeMoves u.sink.nextTicket)).1,
      (u.turns (.beginClose :: closeMoves u.sink.nextTicket)).2,
      ((ending? u.sink.nextTicket (u.turns (.beginClose :: closeMoves u.sink.nextTicket)).2).map
        Ending.answer).getD false) := by
  unfold close closeMoves
  dsimp only

/-- An ending that is found was signalled. -/
theorem returned_of_ending? {t : Nat} {e : Ending} (h : ending? t out = some e) :
    .returned t e ∈ out := by
  fun_induction ending? t out with
  | case1 => cases h
  | case2 e' rest => cases h; exact List.mem_cons_self
  | case3 t' e' rest ht ih => exact List.mem_cons_of_mem _ (ih h)
  | case4 x rest hx ih => exact List.mem_cons_of_mem _ (ih h)

end Uplink

end Herald.Remote
