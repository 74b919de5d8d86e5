import Herald.Bus

/-!
# One subscription

What each operation on the bus does to one live subscription, seen through `find?`.
A publish on its topic is offered to it, what is taken out of it is its oldest
message, and everything else leaves it as it is: other subscriptions coming, going
and receiving, and publishes on other topics.

A new subscription can be told from the ones before it, because numbers are given
out in order (`Numbered`).
-/

namespace Herald.Bus

variable {b b' : Bus} {id : Nat} {s : Subscriber}

/-- Every subscriber has a number that was given out. -/
def Numbered (b : Bus) : Prop := ∀ s ∈ b.subscribers, s.id < b.nextId

theorem numbered_ofCapacity (capacity : Nat) : Numbered (ofCapacity capacity) :=
  fun _ hs => absurd hs List.not_mem_nil

theorem numbered_subscribe (h : Numbered b) (topic : String) :
    Numbered (b.subscribe topic).1 := by
  intro s hs
  rcases List.mem_append.mp hs with hs | hs
  · exact Nat.lt_succ_of_lt (h s hs)
  · rw [List.mem_singleton.mp hs]
    exact Nat.lt_succ_self _

theorem id_of_receive {capacity : Nat} {m : BusMessage} {s' : Subscriber}
    (h : receive capacity m s = some s') : s'.id = s.id ∧ s'.live = s.live := by
  unfold receive offer at h
  split at h
  · cases h
    exact ⟨rfl, rfl⟩
  · split at h
    · split at h
      all_goals
        cases h
        exact ⟨rfl, rfl⟩
    · cases h

theorem numbered_publish (h : Numbered b) (topic : String) (payload : ByteArray) :
    Numbered (b.publish topic payload) := by
  intro s hs
  obtain ⟨s₀, hs₀, hr⟩ := List.mem_filterMap.mp hs
  rw [(id_of_receive hr).1]
  exact h s₀ hs₀

theorem numbered_update (h : Numbered b) (id : Nat) {f : Subscriber → Subscriber}
    (hf : ∀ s, (f s).id = s.id) : Numbered (b.update id f) := by
  intro s hs
  obtain ⟨s₀, hs₀, rfl⟩ := List.mem_map.mp hs
  have hid : (if s₀.id = id then f s₀ else s₀).id = s₀.id := by
    split
    · exact hf s₀
    · rfl
  rw [hid]
  exact h s₀ hs₀

theorem eq_subscribe {topic : String} {id : Nat} (h : b.trySubscribe topic = .ok (b', id)) :
    b' = (b.subscribe topic).1 ∧ id = b.nextId := by
  unfold trySubscribe at h
  split at h
  case h_1 => exact absurd h (by simp)
  case h_2 =>
    cases h
    exact ⟨rfl, rfl⟩

/-! ## Finding a subscription -/

theorem live_of_find? (h : b.find? id = some s) : s.id = id ∧ s.live = true := by
  have := List.find?_some h
  simpa using this

/-- A new subscription is found under its number. -/
theorem find?_subscribe (h : Numbered b) (topic : String) :
    (b.subscribe topic).1.find? b.nextId = some { id := b.nextId, topic } := by
  have hnone : b.subscribers.find? (fun s => s.id = b.nextId ∧ s.live) = none := by
    rw [List.find?_eq_none]
    intro s hs
    have := h s hs
    simp only [decide_eq_true_eq, not_and]
    omega
  rw [find?, subscribe, List.find?_append, hnone]
  simp

/-- The others stay when one comes. -/
theorem find?_subscribe_of_find? (h : b.find? id = some s) (topic : String) :
    (b.subscribe topic).1.find? id = some s := by
  rw [find?] at h
  rw [find?, subscribe, List.find?_append, h]
  rfl

/-- A publish does to a subscription what it does to it alone. -/
theorem find?_publish (h : b.find? id = some s) (topic : String) (payload : ByteArray) :
    (b.publish topic payload).find? id = receive b.capacity ⟨topic, payload⟩ s := by
  -- a live subscriber stays on the list under its number, so the search ends where it did
  have hkept : ∀ s₀ : Subscriber, s₀.id = id ∧ s₀.live = true →
      ∃ s₁, receive b.capacity ⟨topic, payload⟩ s₀ = some s₁ ∧ s₁.id = id ∧ s₁.live = true := by
    intro s₀ hs₀
    have hsome : (receive b.capacity ⟨topic, payload⟩ s₀).isSome = true := by
      unfold receive
      split
      · rfl
      · rw [hs₀.2]
        rfl
    obtain ⟨s₁, hs₁⟩ := Option.isSome_iff_exists.mp hsome
    obtain ⟨hid, hlive⟩ := id_of_receive hs₁
    exact ⟨s₁, hs₁, hid.trans hs₀.1, hlive.trans hs₀.2⟩
  unfold find? publish at *
  dsimp only
  generalize b.subscribers = subs at h
  induction subs with
  | nil => cases h
  | cons s₀ rest ih =>
      rw [List.find?_cons] at h
      split at h
      case h_1 hp =>
        cases h
        obtain ⟨s₁, hs₁, hid, hlive⟩ := hkept s (by simpa using hp)
        rw [List.filterMap_cons_some hs₁, List.find?_cons, hs₁]
        simp [hid, hlive]
      case h_2 hp =>
        have hp₀ : ¬ (s₀.id = id ∧ s₀.live = true) := by simpa using hp
        cases hr : receive b.capacity ⟨topic, payload⟩ s₀ with
        | none =>
            rw [List.filterMap_cons_none hr]
            exact ih h
        | some s₁ =>
            obtain ⟨hid, hlive⟩ := id_of_receive hr
            rw [List.filterMap_cons_some hr, List.find?_cons, hid, hlive]
            simp only [hp₀, decide_false]
            exact ih h

/-- A change of a subscriber is seen under its number, as long as it stays alive. -/
theorem find?_update (f : Subscriber → Subscriber) (h : b.find? id = some s) (id' : Nat)
    (hid : ∀ s, (f s).id = s.id) (hlive : id = id' → ∀ s, (f s).live = s.live) :
    (b.update id' f).find? id = some (if id = id' then f s else s) := by
  have hs := (live_of_find? h).1
  -- the search does not tell the changed subscribers from the old ones
  have hpred : (fun s : Subscriber => decide (s.id = id ∧ s.live = true))
      ∘ (fun s => if s.id = id' then f s else s)
        = fun s => decide (s.id = id ∧ s.live = true) := by
    funext s
    rw [Function.comp_apply]
    by_cases hself : s.id = id'
    · rw [if_pos hself, hid]
      by_cases hsame : s.id = id
      · rw [hlive (hsame.symm.trans hself)]
      · simp only [hsame, false_and]
    · rw [if_neg hself]
  unfold find? update at *
  dsimp only
  rw [List.find?_map, hpred, h, Option.map_some, hs]

theorem find?_update_of_ne {f : Subscriber → Subscriber} (h : b.find? id = some s) {id' : Nat}
    (hne : id ≠ id') (hid : ∀ s, (f s).id = s.id) : (b.update id' f).find? id = some s := by
  rw [find?_update f h id' hid fun he => absurd he hne, if_neg hne]

/-- What is taken out of a subscription is its oldest message. -/
theorem find?_take (h : b.find? id = some s) {m : BusMessage} (ht : b.take? id = some (m, b')) :
    ∃ rest, s.waiting = m :: rest ∧ b'.find? id = some { s with waiting := rest } := by
  unfold take? at ht
  rw [h] at ht
  dsimp only at ht
  split at ht
  case h_1 m' rest hw =>
    obtain ⟨rfl, rfl⟩ := Prod.mk.inj (Option.some.inj ht)
    refine ⟨rest, hw, ?_⟩
    rw [find?_update (fun s => { s with waiting := rest }) h id (fun _ => rfl) fun _ _ => rfl,
      if_pos rfl]
  case h_2 => cases ht

/-- Taking a message out of a subscription is a change of that subscription. -/
theorem eq_update_of_take {id' : Nat} {m : BusMessage} (ht : b.take? id' = some (m, b')) :
    ∃ rest, b' = b.update id' fun s => { s with waiting := rest } := by
  unfold take? at ht
  split at ht
  case h_1 s' _ =>
    split at ht
    case h_1 m' rest hw =>
      obtain ⟨rfl, rfl⟩ := Prod.mk.inj (Option.some.inj ht)
      exact ⟨rest, rfl⟩
    case h_2 => cases ht
  case h_2 => cases ht

/-- Others receive without it. -/
theorem find?_take_of_ne (h : b.find? id = some s) {id' : Nat} (hne : id ≠ id') {m : BusMessage}
    (ht : b.take? id' = some (m, b')) : b'.find? id = some s := by
  obtain ⟨rest, rfl⟩ := eq_update_of_take ht
  exact find?_update_of_ne h hne fun _ => rfl

/-- Others are dropped without it. -/
theorem find?_drop_of_ne (h : b.find? id = some s) {id' : Nat} (hne : id ≠ id') :
    (b.drop id').find? id = some s :=
  find?_update_of_ne h hne fun _ => rfl

end Herald.Bus
