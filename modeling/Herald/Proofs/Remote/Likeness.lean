import Mathlib.Data.List.Forall2
import Herald.Proofs.Remote.Step
import Herald.Remote.Uplink

/-!
# The remote sink does not look at messages

Whether a message gets into the queue, when the worker takes it and what is counted
does not depend on the message. So if two sinks differ in their messages only, and there
only as some relation `R` allows, then whatever one of them does the other can do too,
and afterwards they differ no more than before (`like_step`).
-/

namespace Herald.Remote

variable (R : Message → Message → Prop)

/-- The same command but for a message. -/
inductive Command.Like : Command → Command → Prop where
  | publish {m m' : Message} (h : R m m') : Like (.publish m) (.publish m')
  | flush (ticket : Nat) : Like (.flush ticket) (.flush ticket)
  | stop : Like .stop .stop

/-- The same state of the worker but for its message. -/
inductive Worker.Like : Worker → Worker → Prop where
  | idle : Like .idle .idle
  | publishing {m m' : Message} (h : R m m') : Like (.publishing m) (.publishing m')
  | stopped : Like .stopped .stopped

/-- The same action but for its message. -/
inductive Action.Like : Action → Action → Prop where
  | offer {m m' : Message} (h : R m m') : Like (.offer m) (.offer m')
  | other {a : Action} (h : ∀ m, a ≠ .offer m) : Like a a

/-- The same signal but for its message. -/
inductive Signal.Like : Signal → Signal → Prop where
  | accepted {m m' : Message} (h : R m m') : Like (.accepted m) (.accepted m')
  | dropped {m m' : Message} (h : R m m') : Like (.dropped m) (.dropped m')
  | handed {m m' : Message} (topic : String) (h : R m m') :
      Like (.handed topic m.encode) (.handed topic m'.encode)
  | finished (o : Outcome) : Like (.finished o) (.finished o)
  | returned (ticket : Nat) (e : Ending) : Like (.returned ticket e) (.returned ticket e)

section

variable {R}

theorem Command.Like.refl (hR : ∀ m, R m m) (c : Command) : Like R c c := by
  cases c with
  | publish m => exact .publish (hR m)
  | flush ticket => exact .flush ticket
  | stop => exact .stop

theorem Worker.Like.refl (hR : ∀ m, R m m) (w : Worker) : Like R w w := by
  cases w with
  | idle => exact .idle
  | publishing m => exact .publishing (hR m)
  | stopped => exact .stopped

theorem Action.Like.refl (hR : ∀ m, R m m) (a : Action) : Like R a a := by
  cases a with
  | offer m => exact .offer (hR m)
  | _ => exact .other fun _ => by simp

theorem Command.Like.back {c c' : Command} (h : Like R c c') : Like (fun m m' => R m' m) c' c := by
  cases h with
  | publish h => exact .publish h
  | flush ticket => exact .flush ticket
  | stop => exact .stop

theorem Worker.Like.back {w w' : Worker} (h : Like R w w') : Like (fun m m' => R m' m) w' w := by
  cases h with
  | idle => exact .idle
  | publishing h => exact .publishing h
  | stopped => exact .stopped

theorem Action.Like.back {a a' : Action} (h : Like R a a') : Like (fun m m' => R m' m) a' a := by
  cases h with
  | offer h => exact .offer h
  | other h => exact .other h

theorem Worker.Like.idle_of {w w' : Worker} (h : Like R w w') (hw : w = .idle) : w' = .idle := by
  subst hw
  cases h
  rfl

theorem Worker.Like.stopped_iff {w w' : Worker} (h : Like R w w') :
    w = .stopped ↔ w' = .stopped := by
  cases h <;> simp

end

namespace Sink

/-- The same sink but for its messages. -/
inductive Like (s : Sink) : Sink → Prop where
  | mk {queue : List Command} {worker : Worker} (hq : List.Forall₂ (Command.Like R) s.queue queue)
      (hw : Worker.Like R s.worker worker) : Like s { s with queue, worker }

variable {R} {s t s₁ : Sink} {a a' : Action} {out : List Signal}

theorem like_step (hs : Steps s a s₁ out) (h : Like R s t) (ha : Action.Like R a a') :
    ∃ t₁ out', Steps t a' t₁ out' ∧ Like R s₁ t₁ ∧ List.Forall₂ (Signal.Like R) out out' := by
  obtain ⟨hq, hw⟩ := h
  rename_i queue worker
  have hroom : ∀ b, s.hasRoom = b → { s with queue, worker }.hasRoom = b := by
    rintro b rfl
    rw [hasRoom, hasRoom, hq.length_eq]
  have hruns : s.worker ≠ .stopped → worker ≠ .stopped := mt hw.stopped_iff.mpr
  -- only an offer brings a message of its own, so every other action is the same on both
  cases ha with
  | @offer m m' hm =>
      cases hs with
      | barred _ hc => exact ⟨_, _, .barred m' hc, .mk hq hw, .cons (.dropped hm) .nil⟩
      | full _ hc hr => exact ⟨_, _, .full m' hc (hroom _ hr), .mk hq hw, .cons (.dropped hm) .nil⟩
      | accept _ hc hr =>
          have hq' := List.rel_append hq (.cons (.publish hm) .nil)
          exact ⟨_, _, .accept m' hc (hroom _ hr), .mk hq' hw, .cons (.accepted hm) .nil⟩
  | other ha =>
      cases hs with
      | barred m hc => exact absurd rfl (ha m)
      | full m hc hr => exact absurd rfl (ha m)
      | accept m hc hr => exact absurd rfl (ha m)
      | count hu => exact ⟨_, _, .count hu, .mk hq hw, .nil⟩
      | refuse hc => exact ⟨_, _, .refuse hc, .mk hq hw, .cons (.returned _ _) .nil⟩
      | beginFlush hc => exact ⟨_, _, .beginFlush hc, .mk hq hw, .nil⟩
      | again hu hc => exact ⟨_, _, .again hu hc, .mk hq hw, .cons (.returned _ _) .nil⟩
      | beginClose hu hc => exact ⟨_, _, .beginClose hu hc, .mk hq hw, .nil⟩
      | mark t closing hcall hr hrun =>
          have hq' := List.rel_append hq (.cons (.flush t) .nil)
          exact ⟨_, _, .mark t closing hcall (hroom _ hr) (hruns hrun), .mk hq' hw, .nil⟩
      | flushed t hcall => exact ⟨_, _, .flushed t hcall, .mk hq hw, .cons (.returned _ _) .nil⟩
      | goOn t hcall => exact ⟨_, _, .goOn t hcall, .mk hq hw, .nil⟩
      | sendStop t closing hcall hr hrun =>
          have hq' := List.rel_append hq (.cons .stop .nil)
          exact ⟨_, _, .sendStop t closing hcall (hroom _ hr) (hruns hrun), .mk hq' hw, .nil⟩
      | join t closing hcall hstopped =>
          exact ⟨_, _, .join t closing hcall (hw.stopped_iff.mp hstopped), .mk hq hw,
            .cons (.returned _ _) .nil⟩
      | giveUp t closing p hcall hp =>
          exact ⟨_, _, .giveUp t closing p hcall hp, .mk hq hw, .cons (.returned _ _) .nil⟩
      | giveUpStop t closing hcall =>
          exact ⟨_, _, .giveUpStop t closing hcall, .mk hq hw, .cons (.returned _ _) .nil⟩
      | takeMessage m rest hidle hqueue =>
          rw [hqueue] at hq
          obtain ⟨_, rest', hc, hrest, rfl⟩ := List.forall₂_cons_left_iff.mp hq
          cases hc with
          | @publish _ m' hm =>
              exact ⟨_, _, .takeMessage m' rest' (hw.idle_of hidle) rfl,
                .mk hrest (.publishing hm), .cons (.handed _ hm) .nil⟩
      | reach t closing rest hidle hqueue hcall =>
          rw [hqueue] at hq
          obtain ⟨_, rest', hc, hrest, rfl⟩ := List.forall₂_cons_left_iff.mp hq
          cases hc
          exact ⟨_, _, .reach t closing rest' (hw.idle_of hidle) rfl hcall, .mk hrest hw, .nil⟩
      | pass t rest hidle hqueue hcall =>
          rw [hqueue] at hq
          obtain ⟨_, rest', hc, hrest, rfl⟩ := List.forall₂_cons_left_iff.mp hq
          cases hc
          exact ⟨_, _, .pass t rest' (hw.idle_of hidle) rfl hcall, .mk hrest hw, .nil⟩
      | takeStop rest hidle hqueue =>
          rw [hqueue] at hq
          obtain ⟨_, rest', hc, hrest, rfl⟩ := List.forall₂_cons_left_iff.mp hq
          cases hc
          exact ⟨_, _, .takeStop rest' (hw.idle_of hidle) rfl, .mk hrest .stopped, .nil⟩
      | finish m o hbusy =>
          rw [hbusy] at hw
          cases hw
          exact ⟨_, _, .finish _ o rfl, .mk hq .idle, .cons (.finished o) .nil⟩

theorem Like.refl (hR : ∀ m, R m m) (s : Sink) : Like R s s :=
  .mk (List.forall₂_same.mpr fun c _ => .refl hR c) (.refl hR s.worker)

theorem Like.back (h : Like R s t) : Like (fun m m' => R m' m) t s := by
  obtain ⟨hq, hw⟩ := h
  exact .mk (hq.flip.imp fun _ _ hc => hc.back) hw.back

theorem like_attempt (h : Like R s t) (ha : Action.Like R a a') :
    Like R (s.attempt a).1 (t.attempt a').1
      ∧ List.Forall₂ (Signal.Like R) (s.attempt a).2 (t.attempt a').2 := by
  cases hs : s.step a with
  | some r =>
      obtain ⟨t₁, out', ht, hlike, hout⟩ := like_step (steps_of_step_eq hs) h ha
      rw [attempt, attempt, hs, ht.step_eq]
      exact ⟨hlike, hout⟩
  | none =>
      cases ht : t.step a' with
      | none =>
          rw [attempt, attempt, hs, ht]
          exact ⟨h, .nil⟩
      | some r =>
          -- the relation can be turned round, so `s` could have made the step as well
          obtain ⟨s₁, out', hs', -⟩ := like_step (steps_of_step_eq ht) h.back ha.back
          rw [hs'.step_eq] at hs
          exact absurd hs (by simp)

theorem like_emit {m m' : Message} (h : Like R s t) (hm : R m m') :
    Like R (s.emit m).1 (t.emit m').1
      ∧ List.Forall₂ (Signal.Like R) (s.emit m).2 (t.emit m').2 := by
  have hoffered := like_attempt h (.offer hm)
  have hcounted := like_attempt hoffered.1 (.other fun _ => by simp : Action.Like R .count .count)
  exact ⟨hcounted.1, List.rel_append hoffered.2 hcounted.2⟩

end Sink

end Herald.Remote
