import Herald.Options
import Herald.Proofs.Config.Validation
import Herald.Proofs.Text.Numeral

/-!
# Where a setting comes from

A text setting is what the command line gives for it, a blank text too. If nothing is
given, it is what its variable tells, and a blank variable tells nothing; and if nothing
is told either, it is the default. A switch is on if the command line or its variable
turns it on. The size of the queue can only be told.

`Follows` says this of a configuration, setting by setting. It leaves no choice: one
configuration follows an environment and a command line, and it is the overlay.
-/

namespace Herald

/-- The variable that tells a setting. -/
def Setting.variable : Setting → String
  | .logLevel => "TIDINGS_LOG_LEVEL"
  | .filter => "TIDINGS_TRACING_FILTER"
  | .uid => "TIDINGS_UID"
  | .topic => "TIDINGS_REMOTE_TOPIC"

/-- What a setting is if nobody says anything. -/
def Setting.default? : Setting → Option String
  | .logLevel => some "INFO"
  | .filter => some "info"
  | .uid => none
  | .topic => none

namespace Environment

/-- A variable has a value that is not blank. -/
def Tells (env : Environment) (key v : String) : Prop :=
  env key = some v ∧ ∃ x ∈ v.toList, Text.isBlank x = false

/-- A variable has one of the values that turn a switch on. -/
def TurnsOn (env : Environment) (key : String) : Prop := ∃ v ∈ truthyTokens, env key = some v

/-- The size of the queue is told; there may be blanks around it. -/
def TellsSize (env : Environment) (n : UInt64) : Prop :=
  ∃ v, env "TIDINGS_REMOTE_QUEUE" = some v
    ∧ Text.Numeral.Spells (Text.trimChars v.toList) n.toNat

end Environment

namespace Config

/-- A text setting of a configuration. -/
def text? (c : Config) : Setting → Option String
  | .logLevel => some c.rootLevel
  | .filter => some c.console.filter
  | .uid => c.remote.uid
  | .topic => c.remote.topic

/-- The configuration with another text for one setting. -/
def withText (c : Config) (v : String) : Setting → Config
  | .logLevel => { c with rootLevel := v }
  | .filter => { c with console := { c.console with filter := v } }
  | .uid => { c with remote := { c.remote with uid := some v } }
  | .topic => { c with remote := { c.remote with topic := some v } }

/-- The configuration with a switch on; whether the application is a real one is not in it. -/
def withOn (c : Config) : Switch → Config
  | .json => { c with console := { c.console with json := true } }
  | .remote => { c with remote := { c.remote with enabled := true } }
  | .production => c

/-- What an environment and a command line say, they say in this configuration. -/
structure Follows (c : Config) (env : Environment) (o : Options) : Prop where
  given : ∀ s v, o.value? s = some v → c.text? s = some v
  told : ∀ s v, o.value? s = none → env.Tells s.variable v → c.text? s = some v
  silent : ∀ s, o.value? s = none → (∀ v, ¬env.Tells s.variable v) → c.text? s = s.default?
  json : c.console.json = true ↔ o.json = true ∨ env.TurnsOn "TIDINGS_JSON_LOGS"
  remote : c.remote.enabled = true ↔ o.remote = true ∨ env.TurnsOn "TIDINGS_REMOTE_LOGGING"
  sized : ∀ n, env.TellsSize n → c.remote.queueCapacity = n
  unsized : (∀ n, ¬env.TellsSize n) → c.remote.queueCapacity = 1024

end Config

variable {env : Environment} {o : Options} {c c' : Config} {key v : String} {s : Setting}

/-! ## What the environment says -/

namespace Environment

theorem filled?_eq_some_iff : env.filled? key = some v ↔ env.Tells key v := by
  rw [filled?, Option.filter_eq_some_iff, Bool.not_eq_true', ← Bool.not_eq_true,
    Text.not_isBlankText_iff]
  rfl

theorem isTruthy_iff : isTruthy (env key) = true ↔ env.TurnsOn key := by
  unfold isTruthy TurnsOn
  cases env key with
  | none => simp
  | some v => simp

theorem size?_eq_some_iff {n : UInt64} :
    env.size? "TIDINGS_REMOTE_QUEUE" = some n ↔ env.TellsSize n := by
  unfold size? TellsSize
  simp only [Option.bind_eq_some_iff, filled?_eq_some_iff, Option.map_eq_some_iff,
    Text.Numeral.read?, Text.toList_trim, Option.filter_eq_some_iff, decide_eq_true_eq,
    Text.Numeral.chars?_eq_some_iff]
  constructor
  · rintro ⟨v, ⟨hv, -⟩, k, ⟨hspells, hlimit⟩, rfl⟩
    refine ⟨v, hv, ?_⟩
    rwa [UInt64.toNat_ofNat_of_lt' hlimit]
  · rintro ⟨v, hv, hspells⟩
    -- a numeral is not blank
    have hfilled : ∃ x ∈ v.toList, Text.isBlank x = false :=
      Text.not_isBlankText_iff.mp fun h => hspells.ne_nil (List.isEmpty_iff.mp h)
    exact ⟨v, ⟨hv, hfilled⟩, n.toNat, ⟨hspells, n.toNat_lt⟩, UInt64.ofNat_toNat⟩

end Environment

/-! ## What the configuration says -/

namespace Config

theorem text?_ofEnvironment (env : Environment) (s : Setting) :
    (ofEnvironment env).text? s = (env.filled? s.variable).or s.default? := by
  cases s with
  | logLevel | filter => exact Option.or_some.symm
  | uid | topic => exact Option.or_none.symm

theorem text?_overlay (o : Options) (c : Config) (s : Setting) :
    (o.overlay c).text? s = (o.value? s).or (c.text? s) := by
  cases s with
  | logLevel | filter => exact Option.or_some.symm
  | uid | topic => rfl

/-- **The overlay follows the environment and the command line.** -/
theorem follows_overlay (env : Environment) (o : Options) :
    (o.overlay (ofEnvironment env)).Follows env o := by
  have htext : ∀ s, (o.overlay (ofEnvironment env)).text? s
      = (o.value? s).or ((env.filled? s.variable).or s.default?) := fun s => by
    rw [text?_overlay, text?_ofEnvironment]
  constructor
  case given =>
    intro s v hv
    rw [htext, hv, Option.some_or]
  case told =>
    intro s v hnone hv
    rw [htext, hnone, Option.none_or, Environment.filled?_eq_some_iff.mpr hv, Option.some_or]
  case silent =>
    intro s hnone hv
    have hblank : env.filled? s.variable = none :=
      Option.eq_none_iff_forall_ne_some.mpr fun v h => hv v (Environment.filled?_eq_some_iff.mp h)
    rw [htext, hnone, Option.none_or, hblank, Option.none_or]
  case json =>
    rw [← Environment.isTruthy_iff, or_comm, ← Bool.or_eq_true]
    rfl
  case remote =>
    rw [← Environment.isTruthy_iff, or_comm, ← Bool.or_eq_true]
    rfl
  case sized =>
    intro n hn
    exact congrArg (Option.getD · 1024) (Environment.size?_eq_some_iff.mpr hn)
  case unsized =>
    intro hn
    have hnone : env.size? "TIDINGS_REMOTE_QUEUE" = none :=
      Option.eq_none_iff_forall_ne_some.mpr fun n h => hn n (Environment.size?_eq_some_iff.mp h)
    exact congrArg (Option.getD · 1024) hnone

theorem Follows.text?_eq (h : c.Follows env o) (h' : c'.Follows env o) (s : Setting) :
    c.text? s = c'.text? s := by
  cases hv : o.value? s with
  | some v => rw [h.given s v hv, h'.given s v hv]
  | none =>
      by_cases htold : ∃ v, env.Tells s.variable v
      · obtain ⟨v, htold⟩ := htold
        rw [h.told s v hv htold, h'.told s v hv htold]
      · have hsilent := not_exists.mp htold
        rw [h.silent s hv hsilent, h'.silent s hv hsilent]

theorem Follows.queueCapacity_eq (h : c.Follows env o) (h' : c'.Follows env o) :
    c.remote.queueCapacity = c'.remote.queueCapacity := by
  by_cases htold : ∃ n, env.TellsSize n
  · obtain ⟨n, htold⟩ := htold
    rw [h.sized n htold, h'.sized n htold]
  · have hsilent := not_exists.mp htold
    rw [h.unsized hsilent, h'.unsized hsilent]

/-- **Nothing of a configuration is left open.** -/
theorem Follows.unique (h : c.Follows env o) (h' : c'.Follows env o) : c = c' := by
  have hjson : c.console.json = c'.console.json :=
    Bool.eq_iff_iff.mpr (h.json.trans h'.json.symm)
  have hremote : c.remote.enabled = c'.remote.enabled :=
    Bool.eq_iff_iff.mpr (h.remote.trans h'.remote.symm)
  have hlevel := Option.some.inj (h.text?_eq h' .logLevel)
  have hfilter := Option.some.inj (h.text?_eq h' .filter)
  have huid : c.remote.uid = c'.remote.uid := h.text?_eq h' .uid
  have htopic : c.remote.topic = c'.remote.topic := h.text?_eq h' .topic
  obtain ⟨level, ⟨enabled, topic, uid, capacity⟩, ⟨filter, json⟩⟩ := c
  obtain ⟨level', ⟨enabled', topic', uid', capacity'⟩, ⟨filter', json'⟩⟩ := c'
  obtain rfl : capacity = capacity' := h.queueCapacity_eq h'
  subst hjson hremote hlevel hfilter huid htopic
  rfl

theorem follows_iff : c.Follows env o ↔ c = o.overlay (ofEnvironment env) :=
  ⟨fun h => h.unique (follows_overlay env o), fun h => h ▸ follows_overlay env o⟩

theorem existsUnique_follows (env : Environment) (o : Options) : ∃! c : Config, c.Follows env o :=
  ⟨_, follows_overlay env o, fun _ h => h.unique (follows_overlay env o)⟩

/-- **What is given for a setting replaces that setting.** -/
theorem Follows.setValue (h : c.Follows env o) (v : String) (s : Setting) :
    (c.withText v s).Follows env (o.setValue v s) := by
  rw [follows_iff] at h ⊢
  subst h
  cases s <;> rfl

/-- **A switch that is turned on is on, and nothing else changes.** -/
theorem Follows.turnOn (h : c.Follows env o) (w : Switch) :
    (c.withOn w).Follows env (o.turnOn w) := by
  rw [follows_iff] at h ⊢
  subst h
  cases w with
  | json | remote => simp [withOn, Options.overlay, Options.turnOn]
  | production => rfl

end Config

/-- **What is described is accepted if it is valid, and refused for its first fault.** -/
theorem Options.config_iff {names : Registry} (h : c.Follows env o) :
    (∀ c', o.config names env = .ok c' ↔ c' = c ∧ ∃ root, c.Valid names root)
      ∧ ∀ e, o.config names env = .error e ↔ c.FirstFault names e := by
  obtain rfl := Config.follows_iff.mp h
  refine outcome_iff ?_ (fun e he => ?_) ?_
  · rintro c' ⟨rfl, root, hvalid⟩
    unfold config
    extract_lets c
    rw [show c.validate names = .ok root from Config.validate_of_valid hvalid]
  · unfold config
    extract_lets c
    rw [show c.validate names = .error e from Config.validate_of_firstFault he]
  · exact (Config.valid_or_firstFault names _).imp_left fun hvalid => ⟨_, rfl, hvalid⟩

end Herald
