import Herald.Config.Basic
import Herald.Proofs.Text.Trim

/-!
# What makes a configuration valid

A configuration is valid if its root level is a level, its queue has room and its filter
says something, and it is refused for the first of these that is not so. Every
configuration is either valid with one level or has one first fault.
-/

namespace Herald

variable {names : Registry} {c : Config} {root : Level} {e : LoggingError} {text : String}

/-- Where success or failure is specified in every case, a computation is known exactly. -/
theorem outcome_iff {α : Type} {x : Except LoggingError α} {P : α → Prop} {Q : LoggingError → Prop}
    (hok : ∀ a, P a → x = .ok a) (herror : ∀ e, Q e → x = .error e)
    (hall : (∃ a, P a) ∨ ∃ e, Q e) :
    (∀ a, x = .ok a ↔ P a) ∧ ∀ e, x = .error e ↔ Q e := by
  obtain ⟨a, ha⟩ | ⟨e, he⟩ := hall
  · have hx := hok a ha
    refine ⟨fun a' => ⟨fun h => ?_, hok a'⟩, fun e => ⟨fun h => ?_, herror e⟩⟩
    · exact Except.ok.inj (hx.symm.trans h) ▸ ha
    · cases hx.symm.trans h
  · have hx := herror e he
    refine ⟨fun a => ⟨fun h => ?_, hok a⟩, fun e' => ⟨fun h => ?_, herror e'⟩⟩
    · cases hx.symm.trans h
    · exact Except.error.inj (hx.symm.trans h) ▸ he

theorem Level.parse_eq_error_iff {cause : LevelError} :
    Level.parse names text = .error cause ↔
      cause = .unknown text ∧ ∀ l, Level.parse names text ≠ .ok l := by
  unfold Level.parse
  split
  case h_1 => simp
  case h_2 =>
    split
    case h_1 => simp
    case h_2 => simp [eq_comm]

namespace Config

/-- A configuration that can be used, with the level of its root. -/
structure Valid (names : Registry) (c : Config) (root : Level) : Prop where
  parsed : Level.parse names c.rootLevel = .ok root
  queue : c.remote.queueCapacity ≠ 0
  filter : ∃ x ∈ c.console.filter.toList, Text.isBlank x = false

/-- The first thing that is wrong with a configuration. -/
inductive FirstFault (names : Registry) (c : Config) : LoggingError → Prop where
  | level (h : ∀ root, Level.parse names c.rootLevel ≠ .ok root) :
      FirstFault names c (.level (.unknown c.rootLevel))
  | queue {root : Level} (h : Level.parse names c.rootLevel = .ok root)
      (hqueue : c.remote.queueCapacity = 0) :
      FirstFault names c (.invalidConfig "remote queue capacity must be positive")
  | filter {root : Level} (h : Level.parse names c.rootLevel = .ok root)
      (hqueue : c.remote.queueCapacity ≠ 0)
      (hfilter : ∀ x ∈ c.console.filter.toList, Text.isBlank x = true) :
      FirstFault names c (.invalidConfig "tracing filter must not be empty")

theorem root_of_parse (h : Level.parse names c.rootLevel = .ok root) :
    c.root names = .ok root := by
  unfold Config.root
  rw [h]

theorem validate_of_valid (h : c.Valid names root) : c.validate names = .ok root := by
  rw [validate, root_of_parse h.parsed]
  dsimp only
  rw [if_neg h.queue, if_neg (Text.not_isBlankText_iff.mpr h.filter)]

theorem validate_of_firstFault (h : c.FirstFault names e) : c.validate names = .error e := by
  cases h with
  | level h =>
      have hparse := Level.parse_eq_error_iff.mpr ⟨rfl, h⟩
      unfold validate Config.root
      rw [hparse]
  | queue h hqueue =>
      rw [validate, root_of_parse h]
      exact if_pos hqueue
  | filter h hqueue hfilter =>
      rw [validate, root_of_parse h]
      dsimp only
      rw [if_neg hqueue, if_pos (Text.isBlankText_iff.mpr hfilter)]

/-- **A configuration is valid or has a first fault.** -/
theorem valid_or_firstFault (names : Registry) (c : Config) :
    (∃ root, c.Valid names root) ∨ ∃ e, c.FirstFault names e := by
  by_cases hlevel : ∃ root, Level.parse names c.rootLevel = .ok root
  · obtain ⟨root, hlevel⟩ := hlevel
    by_cases hqueue : c.remote.queueCapacity = 0
    · exact .inr ⟨_, .queue hlevel hqueue⟩
    · by_cases hfilter : Text.isBlankText c.console.filter = true
      · exact .inr ⟨_, .filter hlevel hqueue (Text.isBlankText_iff.mp hfilter)⟩
      · exact .inl ⟨root, hlevel, hqueue, Text.not_isBlankText_iff.mp hfilter⟩
  · exact .inr ⟨_, .level (not_exists.mp hlevel)⟩

theorem validate_iff (names : Registry) (c : Config) :
    (∀ root, c.validate names = .ok root ↔ c.Valid names root)
      ∧ ∀ e, c.validate names = .error e ↔ c.FirstFault names e :=
  outcome_iff (fun _ => validate_of_valid) (fun _ => validate_of_firstFault)
    (valid_or_firstFault names c)

end Config

end Herald
