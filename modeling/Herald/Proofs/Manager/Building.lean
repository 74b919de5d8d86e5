import Herald.Manager.Build
import Herald.Proofs.Config.Validation

/-!
# When a manager is built

A plan is carried out if its configuration is valid and, with shipping on, there is a
transport and the room for the queue can be had. If not, it has one first fault, which
is reported. The configuration comes first, so a fault of the transport or of the queue
is one of a valid configuration.

A valid configuration may ask for a queue that no machine has room for. Its size is no
fault of the configuration, and building breaks off.
-/

namespace Herald

variable {names : Registry} {p : Manager.Plan} {root : Level} {e : LoggingError}
  {remote : Option Remote.Sink}

/-! ## The room for the queue -/

theorem Capacity.fault?_of_le {slotSize capacity : Nat} (h : lapLimit ≤ capacity) :
    fault? slotSize capacity = some .uncountable := if_pos h

theorem Capacity.fault?_of_lt {slotSize capacity : Nat} (h : capacity < lapLimit)
    (hbytes : byteLimit < slotSize * capacity) :
    fault? slotSize capacity = some .unaddressable := by
  rw [fault?, if_neg (Nat.not_le.mpr h), if_pos hbytes]

/-- Slots that can be addressed can be counted. -/
theorem Remote.Sink.tryOfCapacity_of_le {topic : String} {capacity : Nat}
    (h : slotSize * capacity ≤ Capacity.byteLimit) :
    tryOfCapacity topic capacity = .ok (ofCapacity topic capacity) := by
  have hbytes : Capacity.byteLimit = 2 ^ 63 - 8 := rfl
  have hlaps : Capacity.lapLimit = 2 ^ 62 := rfl
  have hnone : Capacity.fault? slotSize (max capacity 1) = none := by
    rw [Capacity.fault?_eq_none_iff]
    rw [slotSize] at h ⊢
    omega
  rw [tryOfCapacity, hnone]

namespace Manager

namespace Plan

/-- The room for the queue of the remote sink can be had. -/
def HasRoom (p : Plan) : Prop :=
  Remote.Sink.slotSize * p.config.remote.queueCapacity.toNat ≤ Capacity.byteLimit

/-- The remote sink of a plan that ships. -/
def sink? (p : Plan) : Option Remote.Sink :=
  if p.config.remote.enabled then
    some (.ofCapacity p.config.remote.resolvedTopic p.config.remote.queueCapacity.toNat)
  else none

theorem isSome_sink? (p : Plan) : p.sink?.isSome = p.config.remote.enabled := by
  rw [sink?]
  cases p.config.remote.enabled <;> rfl

/-- A plan that can be carried out, with the level of the root. -/
structure Ready (names : Registry) (p : Plan) (root : Level) : Prop where
  valid : p.config.Valid names root
  shipping : p.config.remote.enabled = true → p.hasTransport = true ∧ p.HasRoom

/-- The first reason not to carry out a plan. -/
inductive FirstFault (names : Registry) (p : Plan) : LoggingError → Prop where
  | config {e : LoggingError} (h : p.config.FirstFault names e) : FirstFault names p e
  | transport {root : Level} (h : p.config.Valid names root)
      (hon : p.config.remote.enabled = true) (hnone : p.hasTransport = false) :
      FirstFault names p .missingTransport
  | uncountable {root : Level} (h : p.config.Valid names root)
      (hon : p.config.remote.enabled = true) (hthere : p.hasTransport = true)
      (hlaps : Capacity.lapLimit ≤ p.config.remote.queueCapacity.toNat) :
      FirstFault names p (.breakdown (.capacity .uncountable))
  | unaddressable {root : Level} (h : p.config.Valid names root)
      (hon : p.config.remote.enabled = true) (hthere : p.hasTransport = true)
      (hlaps : p.config.remote.queueCapacity.toNat < Capacity.lapLimit) (hroom : ¬p.HasRoom) :
      FirstFault names p (.breakdown (.capacity .unaddressable))

theorem remote_of_shipping
    (h : p.config.remote.enabled = true → p.hasTransport = true ∧ p.HasRoom) :
    p.remote = .ok p.sink? := by
  unfold remote sink?
  split
  case isTrue hon =>
    obtain ⟨hthere, hroom⟩ := h hon
    rw [if_pos hthere, Remote.Sink.tryOfCapacity_of_le hroom]
  case isFalse => rfl

theorem remote_of_fault {f : CapacityFault} (h : p.config.Valid names root)
    (hon : p.config.remote.enabled = true) (hthere : p.hasTransport = true)
    (hf : Capacity.fault? Remote.Sink.slotSize p.config.remote.queueCapacity.toNat = some f) :
    p.remote = .error (.breakdown (.capacity f)) := by
  -- there is room for one command at least as it is
  have hpos : p.config.remote.queueCapacity.toNat ≠ 0 := fun h0 =>
    h.queue (UInt64.toNat_inj.mp h0)
  have hmax := Nat.max_eq_left (Nat.one_le_iff_ne_zero.mpr hpos)
  unfold remote Remote.Sink.tryOfCapacity
  rw [if_pos hon, if_pos hthere, hmax, hf]

end Plan

theorem build_of_remote (h : p.config.Valid names root) (hremote : p.remote = .ok remote) :
    build names p = .ok (assemble names p root remote, startEvents remote) := by
  unfold build
  rw [Config.validate_of_valid h, hremote]

theorem build_of_remote_error (h : p.config.Valid names root) (hremote : p.remote = .error e) :
    build names p = .error e := by
  unfold build
  rw [Config.validate_of_valid h, hremote]

theorem build_of_ready (h : p.Ready names root) :
    build names p = .ok (assemble names p root p.sink?, startEvents p.sink?) :=
  build_of_remote h.valid (Plan.remote_of_shipping h.shipping)

theorem build_of_firstFault (h : p.FirstFault names e) : build names p = .error e := by
  cases h with
  | config h =>
      unfold build
      rw [Config.validate_of_firstFault h]
  | transport h hon hnone =>
      refine build_of_remote_error h ?_
      rw [Plan.remote, if_pos hon, hnone, if_neg Bool.false_ne_true]
  | uncountable h hon hthere hlaps =>
      exact build_of_remote_error h
        (Plan.remote_of_fault h hon hthere (Capacity.fault?_of_le hlaps))
  | unaddressable h hon hthere hlaps hroom =>
      exact build_of_remote_error h
        (Plan.remote_of_fault h hon hthere (Capacity.fault?_of_lt hlaps (Nat.lt_of_not_le hroom)))

/-- **A plan can be carried out or has a first fault.** -/
theorem Plan.ready_or_firstFault (names : Registry) (p : Plan) :
    (∃ root, p.Ready names root) ∨ ∃ e, p.FirstFault names e := by
  obtain ⟨root, hvalid⟩ | ⟨e, hfault⟩ := p.config.valid_or_firstFault names
  · by_cases hon : p.config.remote.enabled = true
    · cases hthere : p.hasTransport with
      | false => exact .inr ⟨_, .transport hvalid hon hthere⟩
      | true =>
          by_cases hroom : p.HasRoom
          · exact .inl ⟨root, hvalid, fun _ => ⟨hthere, hroom⟩⟩
          · by_cases hlaps : p.config.remote.queueCapacity.toNat < Capacity.lapLimit
            · exact .inr ⟨_, .unaddressable hvalid hon hthere hlaps hroom⟩
            · exact .inr ⟨_, .uncountable hvalid hon hthere (Nat.le_of_not_lt hlaps)⟩
    · exact .inl ⟨root, hvalid, fun h => absurd h hon⟩
  · exact .inr ⟨e, .config hfault⟩

theorem build_iff (names : Registry) (p : Plan) :
    (∀ t, build names p = .ok t ↔
        ∃ root, p.Ready names root ∧ t = (assemble names p root p.sink?, startEvents p.sink?))
      ∧ ∀ e, build names p = .error e ↔ p.FirstFault names e := by
  refine outcome_iff ?_ (fun _ => build_of_firstFault) ?_
  · rintro _ ⟨root, hready, rfl⟩
    exact build_of_ready hready
  · exact (Plan.ready_or_firstFault names p).imp_left fun ⟨root, h⟩ => ⟨_, root, h, rfl⟩

theorem exists_build_iff :
    (∃ t, build names p = .ok t) ↔
      (∃ root, p.config.Valid names root)
        ∧ (p.config.remote.enabled = true → p.hasTransport = true ∧ p.HasRoom) := by
  simp only [(build_iff names p).1]
  constructor
  · rintro ⟨_, root, hready, -⟩
    exact ⟨⟨root, hready.valid⟩, hready.shipping⟩
  · rintro ⟨⟨root, hvalid⟩, hshipping⟩
    exact ⟨_, root, ⟨hvalid, hshipping⟩, rfl⟩

/-- Only a valid configuration is refused for want of a transport. -/
theorem build_eq_missingTransport_iff :
    build names p = .error .missingTransport ↔
      (∃ root, p.config.Valid names root)
        ∧ p.config.remote.enabled = true ∧ p.hasTransport = false := by
  rw [(build_iff names p).2]
  constructor
  · intro h
    cases h with
    | config h => cases h
    | transport h hon hnone => exact ⟨⟨_, h⟩, hon, hnone⟩
  · rintro ⟨⟨root, h⟩, hon, hnone⟩
    exact .transport h hon hnone

theorem fst_buildIn (process : ProcessLevels) (p : Plan) :
    (buildIn process p).1 = build process.install.1 p := by
  unfold buildIn
  generalize process.install = installed
  obtain ⟨names, after⟩ := installed
  dsimp only

end Manager

end Herald
