import Mathlib
import Herald.Proofs.Bus.Subscription
import Herald.Remote.Transport

/-!
# Every subscription is a queue of its own

Somebody subscribes, publishes, receives or lets a subscription go, on any topics and
in any order. Put side by side with this the simplest thing that a subscriber could
hope for: a bounded queue that knows nothing of the bus, into which the messages on
its topic are put and out of which its holder takes them.

The two come to the same. What carries the proof is an equation for the whole list of
subscribers (`Refines.subscribers`): it is the list of all subscriptions ever made,
each with what became of it alone, less those that are no longer known. A subscription
is made with the history that follows it as its `since`, so a move extends all of them
at once (`careers_snoc`) and bears on each only through its own queue
(`subscriber?_extend`).
-/

namespace Herald.Bus

/-- What can be done with a bus and its subscriptions. -/
inductive Move where
  /-- Somebody subscribes and is given this number. -/
  | subscribe (topic : String) (id : Nat)
  | publish (topic : String) (payload : ByteArray)
  | receive (id : Nat)
  /-- The receiving end is let go. -/
  | drop (id : Nat)
deriving DecidableEq

/-- The moves, the message that a receive gives if one waits, and what becomes of the bus. -/
inductive Step (b : Bus) : Move → Option BusMessage → Bus → Prop where
  | subscribe {topic : String} {id : Nat} {b' : Bus} (h : b.trySubscribe topic = .ok (b', id)) :
      Step b (.subscribe topic id) none b'
  | publish (topic : String) (payload : ByteArray) :
      Step b (.publish topic payload) none (b.publish topic payload)
  | receive {id : Nat} {m : BusMessage} {b' : Bus} (h : b.take? id = some (m, b')) :
      Step b (.receive id) (some m) b'
  | starve {id : Nat} (h : b.take? id = none) : Step b (.receive id) none b
  | drop (id : Nat) : Step b (.drop id) none (b.drop id)

/-- The moves made so far, each with the message that it gave. -/
abbrev History := List (Move × Option BusMessage)

inductive Run (b₀ : Bus) : History → Bus → Prop where
  | start : Run b₀ [] b₀
  | next {hist : History} {b b' : Bus} {a : Move} {got : Option BusMessage} :
      Run b₀ hist b → Step b a got b' → Run b₀ (hist ++ [(a, got)]) b'

def moves (hist : History) : List Move := hist.map Prod.fst

/-- What the holder of a subscription has received, oldest first. -/
def received (id : Nat) (hist : History) : List BusMessage :=
  hist.filterMap fun e => if e.1 = .receive id then e.2 else none

/-! ## A queue by itself -/

/-- What has been taken out of a queue, and what waits in it. -/
structure Queue where
  taken : List BusMessage := []
  waiting : List BusMessage := []

/-- What can be done with a queue. -/
inductive Turn where
  | put (m : BusMessage)
  | get

namespace Queue

/-- One turn, with `room` for so many messages. What does not fit is lost. -/
def turn (room : Nat) (q : Queue) : Turn → Queue
  | .put m => if q.waiting.length < room then { q with waiting := q.waiting ++ [m] } else q
  | .get =>
    match q.waiting with
    | m :: rest => ⟨q.taken ++ [m], rest⟩
    | [] => q

def ofTurns (room : Nat) (turns : List Turn) : Queue := turns.foldl (turn room) {}

end Queue

/-! ## Subscriptions by themselves -/

/-- A subscription that was made, and what has been done on the bus since. -/
structure Career where
  id : Nat
  topic : String
  since : List Move := []
deriving DecidableEq

/-- All subscriptions that were made, oldest first. -/
def careers : List Move → List Career
  | [] => []
  | .subscribe topic id :: rest => ⟨id, topic, rest⟩ :: careers rest
  | _ :: rest => careers rest

/-- Whether a move is a publish on this topic. -/
def Move.isPublishOn (topic : String) : Move → Bool
  | .publish topic' _ => topic' = topic
  | _ => false

namespace Career

/-- What a move is to the queue of a subscription: nothing, unless it is on its topic or its own. -/
def turn? (c : Career) : Move → Option Turn
  | .publish topic payload => if topic = c.topic then some (.put ⟨topic, payload⟩) else none
  | .receive id => if id = c.id then some .get else none
  | _ => none

/-- Everything that is the subscription's own: publishes on its topic, and its receives. -/
def own (c : Career) : List Turn := c.since.filterMap c.turn?

/-- The queue that the subscription would have by itself. -/
def queue (room : Nat) (c : Career) : Queue := .ofTurns room c.own

/-- The subscription has not been let go. -/
def Live (c : Career) : Prop := .drop c.id ∉ c.since

/-- The subscription has been let go, and nothing has been published on its topic since. -/
def Lingers (c : Career) : Prop :=
  .drop c.id ∈ c.since
    ∧ ∀ a ∈ c.since.dropWhile (· ≠ .drop c.id), a.isPublishOn c.topic = false

instance (c : Career) : Decidable c.Live := inferInstanceAs (Decidable (_ ∉ _))

instance (c : Career) : Decidable c.Lingers := inferInstanceAs (Decidable (_ ∧ _))

def extend (a : Move) (c : Career) : Career := { c with since := c.since ++ [a] }

/-- What the bus is to have of the subscription, if it is to know it still. -/
def subscriber? (room : Nat) (c : Career) : Option Subscriber :=
  if c.Live then some { id := c.id, topic := c.topic, waiting := (c.queue room).waiting }
  else if c.Lingers then some { id := c.id, topic := c.topic, live := false }
  else none

end Career

/-- The subscription that a move makes. -/
def Move.opened : Move → List Career
  | .subscribe topic id => [⟨id, topic, []⟩]
  | _ => []

theorem careers_snoc (ms : List Move) (a : Move) :
    careers (ms ++ [a]) = (careers ms).map (Career.extend a) ++ a.opened := by
  induction ms with
  | nil => cases a <;> rfl
  | cons a' ms ih =>
      cases a' with
      | subscribe topic id => rw [List.cons_append, careers, careers, ih]; rfl
      | _ => exact ih

theorem moves_snoc (hist : History) (a : Move) (got : Option BusMessage) :
    moves (hist ++ [(a, got)]) = moves hist ++ [a] := List.map_append

theorem received_snoc (id : Nat) (hist : History) (a : Move) (got : Option BusMessage) :
    received id (hist ++ [(a, got)])
      = received id hist ++ if a = .receive id then got.toList else [] := by
  rw [received, List.filterMap_append]
  by_cases ha : a = .receive id
  · rw [if_pos ha]
    cases got <;> simp [received, ha]
  · simp [received, ha]

namespace Career

variable {room : Nat} {c : Career} {a : Move}

theorem queue_extend (room : Nat) (c : Career) (a : Move) :
    (c.extend a).queue room = (c.turn? a).elim (c.queue room) ((c.queue room).turn room) := by
  have hown : (c.extend a).own = c.own ++ (c.turn? a).toList := by
    have hturn : (c.extend a).turn? = c.turn? := by
      funext a'
      cases a' <;> rfl
    rw [own, hturn]
    change (c.since ++ [a]).filterMap c.turn? = _
    rw [List.filterMap_append, own]
    cases hat : c.turn? a <;> simp [hat]
  rw [queue, hown, Queue.ofTurns, List.foldl_append]
  cases c.turn? a <;> rfl

theorem live_extend : (c.extend a).Live ↔ c.Live ∧ a ≠ .drop c.id := by
  unfold Live extend
  rw [List.mem_append, not_or, List.mem_singleton]
  exact and_congr_right fun _ => ne_comm

/-- Once let go, a subscription lingers until the next publish on its topic. -/
theorem lingers_extend_of_not_live (hc : ¬ c.Live) :
    (c.extend a).Lingers ↔ c.Lingers ∧ a.isPublishOn c.topic = false := by
  have hmem : Move.drop c.id ∈ c.since := not_not.mp hc
  have hne : ((c.since.dropWhile (· ≠ .drop c.id)).isEmpty) = false := by
    rw [List.isEmpty_eq_false_iff, Ne, List.dropWhile_eq_nil_iff]
    intro hall
    exact absurd (hall _ hmem) (by simp)
  unfold Lingers extend
  dsimp only
  rw [List.dropWhile_append, hne, if_neg Bool.false_ne_true]
  simp only [hmem, List.mem_append, true_or, true_and, List.mem_singleton]
  constructor
  · intro h
    exact ⟨fun a' ha' => h a' (Or.inl ha'), h a (Or.inr rfl)⟩
  · rintro ⟨h, ha⟩ a' (ha' | rfl)
    · exact h a' ha'
    · exact ha

theorem lingers_extend_of_live (hc : c.Live) : (c.extend a).Lingers ↔ a = .drop c.id := by
  have hnil : c.since.dropWhile (· ≠ .drop c.id) = [] := by
    rw [List.dropWhile_eq_nil_iff]
    intro a' ha'
    have hne : a' ≠ .drop c.id := fun h => hc (h ▸ ha')
    simpa using hne
  have hnot : Move.drop c.id ∉ c.since := hc
  unfold Lingers extend
  dsimp only
  rw [List.dropWhile_append, hnil, List.isEmpty_nil, if_pos rfl, List.mem_append,
    List.mem_singleton]
  -- it can only be this move that lets it go, and then nothing comes behind it
  constructor
  · rintro ⟨hmem | hmem, -⟩
    · exact absurd hmem hnot
    · exact hmem.symm
  · rintro rfl
    refine ⟨Or.inr rfl, fun a' ha' => ?_⟩
    rw [List.dropWhile_cons_of_neg (by simp), List.mem_singleton] at ha'
    rw [ha']
    rfl

theorem subscriber?_of_live (hc : c.Live) :
    c.subscriber? room
      = some { id := c.id, topic := c.topic, waiting := (c.queue room).waiting } := if_pos hc

theorem subscriber?_of_lingers (hc : ¬ c.Live) (hl : c.Lingers) :
    c.subscriber? room = some { id := c.id, topic := c.topic, live := false } := by
  rw [subscriber?, if_neg hc, if_pos hl]

theorem subscriber?_of_gone (hc : ¬ c.Live) (hl : ¬ c.Lingers) : c.subscriber? room = none := by
  rw [subscriber?, if_neg hc, if_neg hl]

theorem settings_of_subscriber? {s : Subscriber} (h : c.subscriber? room = some s) :
    s.id = c.id ∧ s.topic = c.topic := by
  unfold subscriber? at h
  split at h
  · cases h
    exact ⟨rfl, rfl⟩
  · split at h <;> cases h
    exact ⟨rfl, rfl⟩

/-- What is neither a publish on its topic nor a move of its holder does not reach it. -/
theorem subscriber?_extend_of_turn? (hturn : c.turn? a = none) (hdrop : a ≠ .drop c.id)
    (hpublish : a.isPublishOn c.topic = false) :
    (c.extend a).subscriber? room = c.subscriber? room := by
  by_cases hc : c.Live
  · rw [subscriber?_of_live hc, subscriber?_of_live (live_extend.mpr ⟨hc, hdrop⟩), queue_extend,
      hturn]
    rfl
  · have hc' : ¬ (c.extend a).Live := fun h => hc (live_extend.mp h).1
    by_cases hl : c.Lingers
    · rw [subscriber?_of_lingers hc hl,
        subscriber?_of_lingers hc' ((lingers_extend_of_not_live hc).mpr ⟨hl, hpublish⟩)]
      rfl
    · rw [subscriber?_of_gone hc hl,
        subscriber?_of_gone hc' fun h => hl ((lingers_extend_of_not_live hc).mp h).1]

/-- A publish does to it what it does to a subscriber of the bus. -/
theorem subscriber?_extend_publish (room : Nat) (c : Career) (topic : String)
    (payload : ByteArray) :
    (c.extend (.publish topic payload)).subscriber? room
      = (c.subscriber? room).bind (receive room ⟨topic, payload⟩) := by
  by_cases htopic : topic = c.topic
  · subst htopic
    have hon : (Move.publish c.topic payload).isPublishOn c.topic = true := decide_eq_true rfl
    by_cases hc : c.Live
    · have hc' : (c.extend (.publish c.topic payload)).Live := live_extend.mpr ⟨hc, by simp⟩
      rw [subscriber?_of_live hc, subscriber?_of_live hc', Option.bind_some, receive,
        if_neg (by simp), if_pos rfl, offer, queue_extend, turn?, if_pos rfl, Option.elim_some,
        Queue.turn]
      dsimp only
      split <;> rfl
    · have hc' : ¬ (c.extend (.publish c.topic payload)).Live := fun h => hc (live_extend.mp h).1
      have hl' : ¬ (c.extend (.publish c.topic payload)).Lingers := by
        rw [lingers_extend_of_not_live hc, hon]
        simp
      rw [subscriber?_of_gone hc' hl']
      by_cases hl : c.Lingers
      · rw [subscriber?_of_lingers hc hl]
        simp [receive]
      · rw [subscriber?_of_gone hc hl]
        rfl
  · have hoff : (Move.publish topic payload).isPublishOn c.topic = false :=
      decide_eq_false htopic
    have hturn : c.turn? (.publish topic payload) = none := if_neg htopic
    rw [subscriber?_extend_of_turn? hturn (by simp) hoff]
    cases hs : c.subscriber? room with
    | none => rfl
    | some s =>
        -- whoever listens elsewhere is passed over
        have htopic' : s.topic ≠ topic := (settings_of_subscriber? hs).2 ▸ Ne.symm htopic
        exact (if_pos htopic').symm

/-- Letting it go takes away what waits. -/
theorem subscriber?_extend_drop (room : Nat) (c : Career) (id : Nat) :
    (c.extend (.drop id)).subscriber? room
      = (c.subscriber? room).map fun s =>
          if s.id = id then { s with live := false, waiting := [] } else s := by
  by_cases hid : c.id = id
  · subst hid
    have hc' : ¬ (c.extend (.drop c.id)).Live := fun h => (live_extend.mp h).2 rfl
    by_cases hc : c.Live
    · rw [subscriber?_of_live hc,
        subscriber?_of_lingers hc' ((lingers_extend_of_live hc).mpr rfl), Option.map_some]
      exact congrArg some (if_pos rfl).symm
    · by_cases hl : c.Lingers
      · have hl' := (lingers_extend_of_not_live (a := .drop c.id) hc).mpr ⟨hl, rfl⟩
        rw [subscriber?_of_lingers hc hl, subscriber?_of_lingers hc' hl', Option.map_some]
        exact congrArg some (if_pos rfl).symm
      · have hl' : ¬ (c.extend (.drop c.id)).Lingers := fun h =>
          hl ((lingers_extend_of_not_live hc).mp h).1
        rw [subscriber?_of_gone hc hl, subscriber?_of_gone hc' hl']
        rfl
  · rw [subscriber?_extend_of_turn? rfl (by simp [Ne.symm hid]) rfl]
    cases hs : c.subscriber? room with
    | none => rfl
    | some s =>
        have hid' : s.id ≠ id := (settings_of_subscriber? hs).1 ▸ hid
        rw [Option.map_some, if_neg hid']

/-- Receives are only seen by their own subscription, and only while it is there. -/
theorem subscriber?_extend_receive (room : Nat) {id : Nat} (h : c.id ≠ id ∨ ¬ c.Live) :
    (c.extend (.receive id)).subscriber? room = c.subscriber? room := by
  by_cases hid : c.id = id
  · have hc : ¬ c.Live := h.resolve_left (not_not.mpr hid)
    have hc' : ¬ (c.extend (.receive id)).Live := fun h => hc (live_extend.mp h).1
    have hl := lingers_extend_of_not_live (a := .receive id) hc
    rw [subscriber?, subscriber?, if_neg hc, if_neg hc']
    simp only [hl, Move.isPublishOn, and_true]
    rfl
  · have hturn : c.turn? (.receive id) = none := if_neg (Ne.symm hid)
    exact subscriber?_extend_of_turn? hturn (by simp) rfl

end Career

/-! ## The bus is its subscriptions -/

/-- The bus is what its subscriptions are by themselves. -/
structure Refines (room : Nat) (hist : History) (b : Bus) : Prop where
  capacity : b.capacity = room
  subscribers : b.subscribers = (careers (moves hist)).filterMap (Career.subscriber? room)
  distinct : ((careers (moves hist)).map Career.id).Nodup
  numbered : ∀ c ∈ careers (moves hist), c.id < b.nextId
  fresh : ∀ id, b.nextId ≤ id → received id hist = []
  taken : ∀ c ∈ careers (moves hist), c.Live → received c.id hist = (c.queue room).taken

section

variable {room : Nat} {hist : History} {b b' : Bus} {id : Nat} {s : Subscriber}

theorem Refines.eq_of_id (h : Refines room hist b) {c c' : Career}
    (hc : c ∈ careers (moves hist)) (hc' : c' ∈ careers (moves hist)) (hid : c.id = c'.id) :
    c = c' :=
  List.inj_on_of_nodup_map h.distinct hc hc' hid

/-- What is found under a number is the one live subscription with that number. -/
theorem Refines.find?_eq_some_iff (h : Refines room hist b) :
    b.find? id = some s ↔ ∃ c ∈ careers (moves hist), c.id = id ∧ c.Live
      ∧ s = { id := c.id, topic := c.topic, waiting := (c.queue room).waiting } := by
  have hmem : ∀ s' ∈ b.subscribers, s'.live = true → ∃ c ∈ careers (moves hist), c.id = s'.id
      ∧ c.Live ∧ s' = { id := c.id, topic := c.topic, waiting := (c.queue room).waiting } := by
    intro s' hs' hlive
    rw [h.subscribers] at hs'
    obtain ⟨c, hc, hsub⟩ := List.mem_filterMap.mp hs'
    unfold Career.subscriber? at hsub
    split at hsub
    · cases hsub
      exact ⟨c, hc, rfl, ‹_›, rfl⟩
    · split at hsub <;> cases hsub
      exact absurd hlive (by simp)
  constructor
  · intro hs
    obtain ⟨hid, hlive⟩ := live_of_find? hs
    obtain ⟨c, hc, hcid, hrest⟩ := hmem s (List.mem_of_find?_eq_some hs) hlive
    exact ⟨c, hc, hcid.trans hid, hrest⟩
  · rintro ⟨c, hc, rfl, hlive, rfl⟩
    have hthere : (b.find? c.id).isSome = true := by
      rw [find?, List.find?_isSome, h.subscribers]
      exact ⟨_, List.mem_filterMap.mpr ⟨c, hc, Career.subscriber?_of_live hlive⟩, by simp⟩
    obtain ⟨s', hs'⟩ := Option.isSome_iff_exists.mp hthere
    obtain ⟨hid, hlive'⟩ := live_of_find? hs'
    obtain ⟨c', hc', hcid, -, rfl⟩ := hmem s' (List.mem_of_find?_eq_some hs') hlive'
    -- numbers are given out once
    rw [hs', h.eq_of_id hc' hc hid]

theorem refines_ofCapacity (capacity : Nat) :
    Refines (max 1 capacity) [] (ofCapacity capacity) where
  capacity := Nat.max_comm capacity 1
  subscribers := rfl
  distinct := List.nodup_nil
  numbered _ hc := absurd hc List.not_mem_nil
  fresh _ _ := rfl
  taken _ hc := absurd hc List.not_mem_nil

/-- A move that makes no subscription extends those that there are. -/
theorem Refines.of_extend (h : Refines room hist b) {a : Move} {got : Option BusMessage}
    (ha : a.opened = []) (hcapacity : b'.capacity = b.capacity) (hnext : b'.nextId = b.nextId)
    (hsubscribers : b'.subscribers = (careers (moves hist)).filterMap
      fun c => (c.extend a).subscriber? room)
    (hreceived : ∀ c ∈ careers (moves hist), (c.extend a).Live →
      received c.id (hist ++ [(a, got)]) = ((c.extend a).queue room).taken)
    (hfresh : ∀ id, b.nextId ≤ id → received id (hist ++ [(a, got)]) = received id hist) :
    Refines room (hist ++ [(a, got)]) b' := by
  have hcareers : careers (moves (hist ++ [(a, got)]))
      = (careers (moves hist)).map (Career.extend a) := by
    rw [moves_snoc, careers_snoc, ha, List.append_nil]
  refine ⟨hcapacity.trans h.capacity, ?_, ?_, ?_, fun id hid => ?_, ?_⟩
  · rw [hcareers, hsubscribers, List.filterMap_map]
    rfl
  · rw [hcareers, List.map_map]
    exact h.distinct
  · rw [hcareers, hnext]
    exact List.forall_mem_map.mpr h.numbered
  · rw [hnext] at hid
    rw [hfresh id hid, h.fresh id hid]
  · rw [hcareers]
    exact List.forall_mem_map.mpr hreceived

theorem received_quiet {a : Move} (hist : History) (ha : a ≠ .receive id)
    (got : Option BusMessage) : received id (hist ++ [(a, got)]) = received id hist := by
  rw [received_snoc, if_neg ha, List.append_nil]

theorem refines_subscribe (h : Refines room hist b) {topic : String}
    (hb : b.trySubscribe topic = .ok (b', id)) :
    Refines room (hist ++ [(.subscribe topic id, none)]) b' := by
  obtain ⟨rfl, rfl⟩ := eq_subscribe hb
  have hcareers : careers (moves (hist ++ [(.subscribe topic b.nextId, none)]))
      = (careers (moves hist)).map (Career.extend (.subscribe topic b.nextId))
        ++ [⟨b.nextId, topic, []⟩] := by
    rw [moves_snoc, careers_snoc]
    rfl
  have hquiet : ∀ id, received id (hist ++ [(.subscribe topic b.nextId, none)])
      = received id hist := fun id => received_quiet hist (by simp) none
  have hsame : ∀ c : Career, (c.extend (.subscribe topic b.nextId)).subscriber? room
      = c.subscriber? room := fun c =>
    Career.subscriber?_extend_of_turn? rfl (by simp) rfl
  refine ⟨h.capacity, ?_, ?_, ?_, fun id hid => ?_, ?_⟩
  · rw [hcareers, List.filterMap_append, List.filterMap_map, Function.comp_def]
    simp only [hsame]
    rw [← h.subscribers]
    rfl
  · rw [hcareers, List.map_append, List.map_map, List.nodup_append]
    refine ⟨h.distinct, List.nodup_singleton _, ?_⟩
    intro id hid id' hid' heq
    obtain ⟨c, hc, rfl⟩ := List.mem_map.mp hid
    have hlt := h.numbered c hc
    rw [List.map_singleton, List.mem_singleton] at hid'
    have heq : c.id = b.nextId := heq.trans hid'
    omega
  · rw [hcareers]
    intro c hc
    change c.id < b.nextId + 1
    rcases List.mem_append.mp hc with hc | hc
    · obtain ⟨c, hold, rfl⟩ := List.mem_map.mp hc
      exact Nat.lt_succ_of_lt (h.numbered c hold)
    · rw [List.mem_singleton.mp hc]
      exact Nat.lt_succ_self _
  · rw [hquiet]
    exact h.fresh id (Nat.le_of_succ_le hid)
  · rw [hcareers]
    intro c hc hlive
    rcases List.mem_append.mp hc with hc | hc
    · obtain ⟨c, hold, rfl⟩ := List.mem_map.mp hc
      rw [hquiet, Career.queue_extend]
      exact h.taken c hold (Career.live_extend.mp hlive).1
    · -- the number is new, so nobody has received under it
      rw [List.mem_singleton.mp hc, hquiet]
      exact h.fresh _ (Nat.le_refl _)

theorem refines_publish (h : Refines room hist b) (topic : String) (payload : ByteArray) :
    Refines room (hist ++ [(.publish topic payload, none)]) (b.publish topic payload) := by
  refine h.of_extend rfl rfl rfl ?_ (fun c hc hlive => ?_) fun id _ =>
    received_quiet hist (by simp) none
  · change b.subscribers.filterMap (receive b.capacity ⟨topic, payload⟩) = _
    rw [h.capacity, h.subscribers, List.filterMap_filterMap]
    simp only [Career.subscriber?_extend_publish]
  · -- a put takes nothing out
    have hput : ∀ (q : Queue) (m : BusMessage), (q.turn room (.put m)).taken = q.taken := by
      intro q m
      rw [Queue.turn]
      split <;> rfl
    rw [received_quiet hist (by simp), h.taken c hc (Career.live_extend.mp hlive).1,
      Career.queue_extend, Career.turn?]
    split
    · exact (hput _ _).symm
    · rfl

theorem refines_drop (h : Refines room hist b) (id : Nat) :
    Refines room (hist ++ [(.drop id, none)]) (b.drop id) := by
  refine h.of_extend rfl rfl rfl ?_ (fun c hc hlive => ?_) fun id _ =>
    received_quiet hist (by simp) none
  · change b.subscribers.map _ = _
    rw [h.subscribers, List.map_filterMap]
    simp only [Career.subscriber?_extend_drop]
  · rw [received_quiet hist (by simp), Career.queue_extend]
    exact h.taken c hc (Career.live_extend.mp hlive).1

theorem take?_eq_some_iff (hs : b.find? id = some s) {m : BusMessage} :
    b.take? id = some (m, b') ↔
      ∃ rest, s.waiting = m :: rest ∧ b' = b.update id fun s => { s with waiting := rest } := by
  unfold take?
  rw [hs]
  dsimp only
  cases s.waiting with
  | nil => simp
  | cons m' rest =>
      constructor
      · intro h
        cases h
        exact ⟨rest, rfl, rfl⟩
      · rintro ⟨rest', hcons, rfl⟩
        cases hcons
        rfl

theorem waiting_of_take?_eq_none (hs : b.find? id = some s) (ht : b.take? id = none) :
    s.waiting = [] := by
  cases hw : s.waiting with
  | nil => rfl
  | cons m rest =>
      have htake := (take?_eq_some_iff hs).mpr ⟨rest, hw, rfl⟩
      rw [ht] at htake
      cases htake

/-- A receive takes the oldest message out of the one queue that has its number. -/
theorem refines_receive (h : Refines room hist b) {m : BusMessage}
    (ht : b.take? id = some (m, b')) : Refines room (hist ++ [(.receive id, some m)]) b' := by
  have hfound : ∃ s, b.find? id = some s := by
    unfold take? at ht
    split at ht
    · exact ⟨_, ‹_›⟩
    · cases ht
  obtain ⟨s, hs⟩ := hfound
  obtain ⟨rest, hwaiting, rfl⟩ := (take?_eq_some_iff hs).mp ht
  obtain ⟨c, hc, rfl, hlive, rfl⟩ := h.find?_eq_some_iff.mp hs
  have hself : c.turn? (.receive c.id) = some .get := if_pos rfl
  have hqueue : (c.extend (.receive c.id)).queue room = ⟨(c.queue room).taken ++ [m], rest⟩ := by
    have hw : (c.queue room).waiting = m :: rest := hwaiting
    rw [Career.queue_extend, hself, Option.elim_some, Queue.turn, hw]
  refine h.of_extend rfl rfl rfl ?_ (fun c' hc' hlive' => ?_) fun id hid => ?_
  · change b.subscribers.map _ = _
    rw [h.subscribers, List.map_filterMap]
    refine List.filterMap_congr fun c' hc' => ?_
    by_cases hid : c'.id = c.id
    · obtain rfl := h.eq_of_id hc' hc hid
      have hlive' : (c'.extend (.receive c'.id)).Live := Career.live_extend.mpr ⟨hlive, by simp⟩
      rw [Career.subscriber?_of_live hlive, Career.subscriber?_of_live hlive', hqueue,
        Option.map_some, if_pos rfl]
      rfl
    · rw [Career.subscriber?_extend_receive room (Or.inl hid)]
      cases hsub : c'.subscriber? room with
      | none => rfl
      | some s' =>
          have hid' : s'.id ≠ c.id := (Career.settings_of_subscriber? hsub).1 ▸ hid
          rw [Option.map_some, if_neg hid']
  · have hold := h.taken c' hc' (Career.live_extend.mp hlive').1
    by_cases hid : c'.id = c.id
    · obtain rfl := h.eq_of_id hc' hc hid
      rw [received_snoc, if_pos rfl, hqueue, hold]
      rfl
    · have hother : c'.turn? (.receive c.id) = none := if_neg (Ne.symm hid)
      rw [received_quiet hist (by simp [Ne.symm hid]), Career.queue_extend, hother]
      exact hold
  · -- the number of a subscription that is there has been given out already
    have hlt := h.numbered c hc
    have hne : Move.receive c.id ≠ .receive id := by
      rw [Ne, Move.receive.injEq]
      omega
    exact received_quiet hist hne _

/-- A receive from an empty queue, or by somebody whose subscription is gone, does nothing. -/
theorem refines_starve (h : Refines room hist b) (ht : b.take? id = none) :
    Refines room (hist ++ [(.receive id, none)]) b := by
  have hquiet : ∀ id', received id' (hist ++ [(.receive id, none)]) = received id' hist := by
    intro id'
    rw [received_snoc, Option.toList_none, ite_self, List.append_nil]
  have hqueue : ∀ c ∈ careers (moves hist), c.Live →
      (c.extend (.receive id)).queue room = c.queue room := by
    intro c hc hlive
    rw [Career.queue_extend, Career.turn?]
    by_cases hid : id = c.id
    · -- its own queue would have given something, had anything waited
      subst hid
      have hempty := waiting_of_take?_eq_none (h.find?_eq_some_iff.mpr ⟨c, hc, rfl, hlive, rfl⟩) ht
      rw [if_pos rfl, Option.elim_some, Queue.turn, show (c.queue room).waiting = [] from hempty]
    · rw [if_neg hid]
      rfl
  refine h.of_extend rfl rfl rfl ?_ (fun c hc hlive => ?_) fun id' _ => hquiet id'
  · rw [h.subscribers]
    refine List.filterMap_congr fun c hc => ?_
    by_cases hlive : c.Live
    · have hlive' : (c.extend (.receive id)).Live := Career.live_extend.mpr ⟨hlive, by simp⟩
      rw [Career.subscriber?_of_live hlive, Career.subscriber?_of_live hlive', hqueue c hc hlive]
      rfl
    · exact (Career.subscriber?_extend_receive room (Or.inr hlive)).symm
  · have hlive := (Career.live_extend.mp hlive).1
    rw [hquiet, hqueue c hc hlive]
    exact h.taken c hc hlive

/-- **Every move of the bus is that move on each subscription alone.** -/
theorem refines_step {a : Move} {got : Option BusMessage} (h : Refines room hist b)
    (hs : Step b a got b') : Refines room (hist ++ [(a, got)]) b' := by
  cases hs with
  | subscribe hb => exact refines_subscribe h hb
  | publish topic payload => exact refines_publish h topic payload
  | receive ht => exact refines_receive h ht
  | starve ht => exact refines_starve h ht
  | drop id => exact refines_drop h id

theorem refines_run {capacity : Nat} (h : Run (ofCapacity capacity) hist b) :
    Refines (max 1 capacity) hist b := by
  induction h with
  | start => exact refines_ofCapacity capacity
  | next _ hstep ih => exact refines_step ih hstep

/-! ## Counting -/

/-- The bus knows those that are there, and those that linger. -/
theorem Refines.count_eq (h : Refines room hist b) (topic : String) :
    b.count topic
      = (careers (moves hist)).countP (fun c => c.topic = topic ∧ c.Live)
        + (careers (moves hist)).countP (fun c => c.topic = topic ∧ c.Lingers) := by
  rw [count, h.subscribers]
  generalize careers (moves hist) = cs
  induction cs with
  | nil => rfl
  | cons c cs ih =>
      -- nobody both is there and lingers
      have hboth : c.Live → ¬ c.Lingers := fun hlive hl => hlive hl.1
      rw [List.countP_cons, List.countP_cons]
      by_cases hlive : c.Live
      · rw [List.filterMap_cons_some (Career.subscriber?_of_live hlive), List.filter_cons]
        by_cases htopic : c.topic = topic
        · simp only [htopic, hlive, hboth hlive]
          simp only [decide_true, if_true, and_self, and_false, decide_false, List.length_cons]
          rw [ih]
          simp
          omega
        · simp only [htopic]
          simpa using ih
      · by_cases hl : c.Lingers
        · rw [List.filterMap_cons_some (Career.subscriber?_of_lingers hlive hl), List.filter_cons]
          by_cases htopic : c.topic = topic
          · simp [htopic, hlive, hl, ih]
            omega
          · simpa [htopic] using ih
        · rw [List.filterMap_cons_none (Career.subscriber?_of_gone hlive hl)]
          simpa [hlive, hl] using ih

/--
**Every subscription is a bounded queue of its own.**

In every run of a bus, whoever subscribed and still holds the subscription has
received, and has waiting, what an independent queue with room for `max 1 capacity`
messages would give that is fed the publishes on its topic since then and emptied by
its own receives. Only what was subscribed and not let go is found on the bus. Two
subscriptions with the same turns of their own, be it in different runs, cannot tell
each other apart. A publish always succeeds. And the bus counts, for a topic, the
subscriptions that are there and those that were let go without a publish since.
-/
theorem refines_queues {capacity : Nat} (h : Run (ofCapacity capacity) hist b) :
    (∀ c ∈ careers (moves hist), c.Live →
        received c.id hist = (c.queue (max 1 capacity)).taken
          ∧ ∃ s, b.find? c.id = some s ∧ s.topic = c.topic
            ∧ s.waiting = (c.queue (max 1 capacity)).waiting)
      ∧ (∀ id s, b.find? id = some s → ∃ c ∈ careers (moves hist), c.id = id ∧ c.Live)
      ∧ (∀ hist' b', Run (ofCapacity capacity) hist' b' →
          ∀ c ∈ careers (moves hist), ∀ c' ∈ careers (moves hist'), c.Live → c'.Live →
            c.own = c'.own → received c.id hist = received c'.id hist'
              ∧ (b.find? c.id).map Subscriber.waiting = (b'.find? c'.id).map Subscriber.waiting)
      ∧ (∀ topic payload, Remote.Carrier.publish ⟨.bus, b⟩ topic payload
          = (⟨.bus, b.publish topic payload⟩, some .published))
      ∧ (∀ topic, b.count topic
          = (careers (moves hist)).countP (fun c => c.topic = topic ∧ c.Live)
            + (careers (moves hist)).countP (fun c => c.topic = topic ∧ c.Lingers)) := by
  have hrefines := refines_run h
  have hfound : ∀ {hist : History} {b : Bus}, Refines (max 1 capacity) hist b →
      ∀ c ∈ careers (moves hist), c.Live → b.find? c.id
        = some { id := c.id, topic := c.topic, waiting := (c.queue (max 1 capacity)).waiting } :=
    fun h c hc hlive => h.find?_eq_some_iff.mpr ⟨c, hc, rfl, hlive, rfl⟩
  refine ⟨fun c hc hlive => ?_, ?_, ?_, fun _ _ => rfl, hrefines.count_eq⟩
  · exact ⟨hrefines.taken c hc hlive, _, hfound hrefines c hc hlive, rfl, rfl⟩
  · intro id s hs
    obtain ⟨c, hc, hid, hlive, -⟩ := hrefines.find?_eq_some_iff.mp hs
    exact ⟨c, hc, hid, hlive⟩
  · intro hist' b' h' c hc c' hc' hlive hlive' hown
    have hrefines' := refines_run h'
    have hqueue : c.queue (max 1 capacity) = c'.queue (max 1 capacity) :=
      congrArg (Queue.ofTurns _) hown
    rw [hrefines.taken c hc hlive, hrefines'.taken c' hc' hlive', hfound hrefines c hc hlive,
      hfound hrefines' c' hc' hlive', hqueue]
    exact ⟨rfl, rfl⟩

end

/-- Room for one message, and two subscriptions to a topic, of which one is let go. -/
def sharedMoves : List Move :=
  [.subscribe "t" 0, .subscribe "t" 1, .publish "t" ⟨#[1]⟩, .publish "t" ⟨#[2]⟩, .receive 0,
    .publish "u" ⟨#[3]⟩, .publish "t" ⟨#[4]⟩, .drop 1]

/-- The second message finds no room, and the third is on another topic. -/
theorem refines_queues_sharedRun :
    ∃ hist b, Run (ofCapacity 0) hist b ∧ moves hist = sharedMoves
      ∧ (received 0 hist).map BusMessage.payload = [⟨#[1]⟩]
      ∧ (b.find? 0).map (fun s => s.waiting.map BusMessage.payload) = some [⟨#[4]⟩]
      ∧ b.count "t" = 2 := by
  have hfirst := (@Run.start (ofCapacity 0)).next
    (.subscribe (show (ofCapacity 0).trySubscribe "t" = .ok (_, 0) from rfl))
  have hsecond := hfirst.next (.subscribe (show Bus.trySubscribe _ "t" = .ok (_, 1) from rfl))
  have hfull := (hsecond.next (.publish "t" ⟨#[1]⟩)).next (.publish "t" ⟨#[2]⟩)
  have hreceived := hfull.next (.receive (show Bus.take? _ 0 = some _ from rfl))
  have hagain := (hreceived.next (.publish "u" ⟨#[3]⟩)).next (.publish "t" ⟨#[4]⟩)
  have hrun := hagain.next (.drop 1)
  obtain ⟨hqueues, -, -, -, hcount⟩ := refines_queues hrun
  obtain ⟨hreceived, s, hs, -, hwaiting⟩ :=
    hqueues ⟨0, "t", sharedMoves.drop 1⟩ (by decide) (by decide)
  refine ⟨_, _, hrun, rfl, ?_, ?_, ?_⟩
  · rw [hreceived]
    rfl
  · rw [hs, Option.map_some, hwaiting]
    rfl
  · rw [hcount]
    decide

end Herald.Bus
