import Herald.Level.Parse
import Herald.Level.Process
import Herald.Proofs.Level.Registry

/-!
# The registry of a process stays

A process comes to its registry by one of three doors: a plain initialisation, one
with extra levels, or the first lookup. Whichever is used first decides, and after
that the registry is only read. A refused initialisation has not used its door: the
extra levels are tried on a registry of their own, which is thrown away.
-/

namespace Herald.ProcessLevels

/-- What a process asks of its levels. -/
inductive Use where
  /-- That there are levels. -/
  | setUp
  /-- That there are these, besides the built-in ones. -/
  | setUpWith (extra : List (String × UInt32))
  /-- The name of a rank. -/
  | nameOf (l : Level)
  /-- The rank of a name. -/
  | ofName (name : String)
  /-- The level that is written as a rank or as a name. -/
  | parse (text : String)

/-- What it is told. -/
inductive Answer where
  | levels (outcome : Except LevelError Registry)
  | name (text : String)
  | level? (found : Option Level)
  | parsed (outcome : Except LevelError Level)
deriving DecidableEq

/-- One use. A rank that is spelled out needs no registry, every other lookup does. -/
def ask (p : ProcessLevels) : Use → Answer × ProcessLevels
  | .setUp => (.levels (.ok p.install.1), p.install.2)
  | .setUpWith extra => (.levels (p.installWith extra).1, (p.installWith extra).2)
  | .nameOf l => (.name (l.name p.install.1), p.install.2)
  | .ofName s => (.level? (p.install.1.byName? s), p.install.2)
  | .parse text =>
    match Level.ofNumeral? text with
    | some l => (.parsed (.ok l), p)
    | none => (.parsed (Level.parse p.install.1 text), p.install.2)

/-- The process after some uses. -/
def after (p : ProcessLevels) (uses : List Use) : ProcessLevels :=
  uses.foldl (fun p u => (p.ask u).2) p

variable {p : ProcessLevels} {r : Registry} {extra : List (String × UInt32)} {u : Use}

/-! ## What is installed stays -/

theorem install_of_installed (h : p.installed = some r) : p.install = (r, p) := by
  unfold install
  rw [h]

theorem installWith_of_installed (h : p.installed = some r) (extra : List (String × UInt32)) :
    p.installWith extra = (r.require extra, p) := by
  unfold installWith
  rw [h]

theorem ask_of_installed (h : p.installed = some r) (u : Use) : (p.ask u).2 = p := by
  have hin := install_of_installed h
  cases u with
  | setUp => exact congrArg Prod.snd hin
  | setUpWith extra => exact congrArg Prod.snd (installWith_of_installed h extra)
  | nameOf l => exact congrArg Prod.snd hin
  | ofName s => exact congrArg Prod.snd hin
  | parse text =>
      rw [ask]
      split
      · rfl
      · exact congrArg Prod.snd hin

theorem after_of_installed (h : p.installed = some r) (uses : List Use) : p.after uses = p :=
  List.foldlRecOn (motive := fun q => q = p) uses _ rfl
    fun q hq u _ => by rw [hq, ask_of_installed h u]

/-! ## What gets installed -/

/-- A registry with the built-in levels and maybe others. -/
structure Standard (r : Registry) : Prop where
  paired : r.Paired
  builtin : ∀ e ∈ Registry.defaults.levels, e ∈ r.levels

theorem standard_defaults : Standard Registry.defaults :=
  ⟨Registry.paired_defaults, fun _ he => he⟩

theorem standard_registerAll (h : Registry.defaults.registerAll extra = .ok r) : Standard r := by
  obtain ⟨hpaired, hkeep, -⟩ := Registry.paired_defaults.registerAll h
  exact ⟨hpaired, hkeep⟩

theorem Standard.builtin_lookups (h : Standard r) :
    ∀ b ∈ Level.builtin, r.byName? b.1 = some b.2 ∧ r.nameOf? b.2 = some b.1 := by
  have hnames : ∀ b ∈ Level.builtin,
      normalizeName b.1 = b.1 ∧ (b.2, b.1) ∈ Registry.defaults.levels := by
    decide +kernel
  intro b hb
  obtain ⟨hname, hmem⟩ := hnames b hb
  have hentry := h.builtin _ hmem
  rw [h.paired.byName?_eq_some_iff, Registry.nameOf?_eq_some_iff, hname]
  exact ⟨hentry, hentry⟩

theorem require_eq_ok_iff {r' : Registry} :
    r.require extra = .ok r' ↔ (∀ e ∈ extra, r.contains e.1 e.2) ∧ r' = r := by
  unfold Registry.require
  split
  case h_1 hnone =>
    have hall : ∀ e ∈ extra, r.contains e.1 e.2 := by
      simpa [Registry.missing?] using hnone
    exact ⟨fun h => ⟨hall, (Except.ok.inj h).symm⟩, fun h => congrArg Except.ok h.2.symm⟩
  case h_2 name rank hsome =>
    have hlacks : ¬r.contains name rank := by simpa using List.find?_some hsome
    exact ⟨(nomatch ·), fun h => absurd (h.1 _ (List.mem_of_find?_eq_some hsome)) hlacks⟩

/-- **The first initialisation with extra levels asks no more than that they can be registered.** -/
theorem installWith_of_not_installed (h : p.installed = none) (extra : List (String × UInt32)) :
    (∃ r, Registry.defaults.registerAll extra = .ok r ∧ p.installWith extra = (.ok r, ⟨some r⟩))
      ∨ ∃ e, Registry.defaults.registerAll extra = .error e
        ∧ p.installWith extra = (.error e, p) := by
  unfold installWith
  rw [h]
  dsimp only
  cases hreg : Registry.defaults.registerAll extra with
  | error e => exact .inr ⟨e, rfl, rfl⟩
  | ok r =>
      obtain ⟨-, -, hthere⟩ := Registry.paired_defaults.registerAll hreg
      -- what has just been registered is found, so the check that follows finds nothing missing
      have hrequire : r.require extra = .ok r :=
        require_eq_ok_iff.mpr ⟨fun e he => decide_eq_true (hthere e he), rfl⟩
      refine .inl ⟨r, rfl, ?_⟩
      dsimp only
      rw [hrequire]

theorem standard_ask (h : ∀ r, p.installed = some r → Standard r) (u : Use) :
    ∀ r, (p.ask u).2.installed = some r → Standard r := by
  cases hin : p.installed with
  | some r₀ =>
      rw [ask_of_installed hin]
      exact h
  | none =>
      have hplain : ∀ r, p.install.2.installed = some r → Standard r := by
        intro r hr
        unfold install at hr
        rw [hin] at hr
        obtain rfl := Option.some.inj hr
        exact standard_defaults
      cases u with
      | setUp => exact hplain
      | nameOf l => exact hplain
      | ofName s => exact hplain
      | parse text =>
          rw [ask]
          split
          · exact h
          · exact hplain
      | setUpWith extra =>
          intro r hr
          rw [ask] at hr
          obtain ⟨r₁, hreg, heq⟩ | ⟨e, -, heq⟩ := installWith_of_not_installed hin extra
          · rw [heq] at hr
            obtain rfl := Option.some.inj hr
            exact standard_registerAll hreg
          · rw [heq] at hr
            exact h r hr

/-- Whatever a process installs has the built-in levels and is paired. -/
theorem standard_after (uses : List Use) (h : (after {} uses).installed = some r) : Standard r :=
  List.foldlRecOn (motive := fun q : ProcessLevels => ∀ r, q.installed = some r → Standard r)
    uses _ (by simp) (fun _ hq u _ => standard_ask hq u) r h

/-! ## The course of a process -/

/-- Every lookup is answered by this registry. -/
structure AnswersFrom (p : ProcessLevels) (r : Registry) : Prop where
  setUp : (p.ask .setUp).1 = .levels (.ok r)
  nameOf : ∀ l, (p.ask (.nameOf l)).1 = .name (l.name r)
  ofName : ∀ s, (p.ask (.ofName s)).1 = .level? (r.byName? s)
  parse : ∀ text, (p.ask (.parse text)).1 = .parsed (Level.parse r text)

theorem answersFrom_install (p : ProcessLevels) : p.AnswersFrom p.install.1 := by
  refine ⟨rfl, fun _ => rfl, fun _ => rfl, fun text => ?_⟩
  rw [ask]
  split
  case h_1 l hnumeral => rw [Level.parse, hnumeral]
  case h_2 => rfl

theorem installed_install (p : ProcessLevels) : p.install.2.installed = some p.install.1 := by
  unfold install
  split
  case h_1 r hr => exact hr
  case h_2 => rfl

theorem answersFrom_after (h : p.installed = some r) (more : List Use) :
    (p.after more).installed = some r ∧ (p.after more).AnswersFrom r := by
  rw [after_of_installed h]
  have hanswers := p.answersFrom_install
  rw [install_of_installed h] at hanswers
  exact ⟨h, hanswers⟩

/-- What an accepted initialisation gives is installed and has all that was asked for. -/
theorem installWith_eq_ok (h : (p.installWith extra).1 = .ok r) :
    (p.installWith extra).2.installed = some r ∧ ∀ e ∈ extra, r.contains e.1 e.2 := by
  cases hin : p.installed with
  | some r₀ =>
      rw [installWith_of_installed hin] at h ⊢
      obtain ⟨hall, rfl⟩ := require_eq_ok_iff.mp h
      exact ⟨hin, hall⟩
  | none =>
      obtain ⟨r₁, hreg, heq⟩ | ⟨e, -, heq⟩ := installWith_of_not_installed hin extra
      · rw [heq] at h ⊢
        obtain rfl := Except.ok.inj h
        have hthere := (Registry.paired_defaults.registerAll hreg).2.2
        exact ⟨rfl, fun e he => decide_eq_true (hthere e he)⟩
      · rw [heq] at h
        cases h

theorem installWith_eq_error {e : LevelError} (h : (p.installWith extra).1 = .error e) :
    (p.installWith extra).2 = p := by
  cases hin : p.installed with
  | some r₀ => rw [installWith_of_installed hin]
  | none =>
      obtain ⟨r₁, -, heq⟩ | ⟨e, -, heq⟩ := installWith_of_not_installed hin extra
      · rw [heq] at h
        cases h
      · rw [heq]

/--
**A process has one registry, and it is the same from the first use to the last.**

Once a registry is installed it stays, whatever is asked next: each name and each rank
is looked up in it, and the built-in levels are there, found from either side. A lookup
and a plain initialisation answer from the registry that they leave installed; only a
rank that is spelled out needs none. An accepted initialisation with extra levels gives
the registry that is installed from then on, in which every extra level is registered,
and it is accepted at every later point as well. A refused one leaves the process as it
was. In a process with a registry an initialisation is accepted exactly if all its extra
levels are there; in one without, exactly if they can be registered after the built-in
levels.
-/
theorem registry_stable {uses : List Use} (hp : after {} uses = p) :
    (∀ r, p.installed = some r →
        (∀ more, (p.after more).installed = some r ∧ (p.after more).AnswersFrom r)
          ∧ ∀ b ∈ Level.builtin, r.byName? b.1 = some b.2 ∧ r.nameOf? b.2 = some b.1)
      ∧ (∃ r, p.AnswersFrom r ∧ (p.ask .setUp).2.installed = some r
          ∧ (∀ l, (p.ask (.nameOf l)).2.installed = some r)
          ∧ (∀ s, (p.ask (.ofName s)).2.installed = some r)
          ∧ ∀ text, (p.ask (.parse text)).2
              = if (Level.ofNumeral? text).isSome then p else ⟨some r⟩)
      ∧ (∀ extra r, (p.ask (.setUpWith extra)).1 = .levels (.ok r) →
          (p.ask (.setUpWith extra)).2.installed = some r
            ∧ (∀ e ∈ extra, r.byName? e.1 = some ⟨e.2⟩)
            ∧ ∀ more, (((p.ask (.setUpWith extra)).2.after more).ask (.setUpWith extra)).1
                = .levels (.ok r))
      ∧ (∀ extra e, (p.ask (.setUpWith extra)).1 = .levels (.error e) →
          (p.ask (.setUpWith extra)).2 = p)
      ∧ (∀ extra r, p.installed = some r →
          ((p.ask (.setUpWith extra)).1 = .levels (.ok r)
            ↔ ∀ e ∈ extra, r.byName? e.1 = some ⟨e.2⟩))
      ∧ ∀ extra r, p.installed = none →
          ((p.ask (.setUpWith extra)).1 = .levels (.ok r)
            ↔ Registry.defaults.registerAll extra = .ok r) := by
  have hcontains : ∀ (r : Registry) (extra : List (String × UInt32)),
      (∀ e ∈ extra, r.contains e.1 e.2) ↔ ∀ e ∈ extra, r.byName? e.1 = some ⟨e.2⟩ := by
    simp [Registry.contains]
  have hlater : ∀ {q : ProcessLevels} {r : Registry} {extra}, q.installed = some r →
      ((q.installWith extra).1 = .ok r ↔ ∀ e ∈ extra, r.byName? e.1 = some ⟨e.2⟩) := by
    intro q r extra hin
    rw [installWith_of_installed hin, require_eq_ok_iff, hcontains]
    exact and_iff_left rfl
  simp only [ask, Answer.levels.injEq]
  refine ⟨fun r hin => ⟨answersFrom_after hin, ?_⟩, ?_, fun extra r hok => ?_,
    fun extra e he => installWith_eq_error he, fun extra r hin => hlater hin,
    fun extra r hin => ?_⟩
  · subst hp
    exact (standard_after uses hin).builtin_lookups
  · have hinstalled := p.installed_install
    refine ⟨p.install.1, p.answersFrom_install, hinstalled, fun _ => hinstalled,
      fun _ => hinstalled, fun text => ?_⟩
    cases Level.ofNumeral? text with
    | some l => rfl
    | none => exact congrArg ProcessLevels.mk hinstalled
  · obtain ⟨hin, hall⟩ := installWith_eq_ok hok
    have hnames := (hcontains r extra).mp hall
    refine ⟨hin, hnames, fun more => ?_⟩
    rw [after_of_installed hin]
    exact (hlater hin).mpr hnames
  · obtain ⟨r₁, hreg, heq⟩ | ⟨e, hreg, heq⟩ := installWith_of_not_installed hin extra
    · rw [heq, hreg]
    · rw [heq, hreg]

/-- A refusal, then a level in two spellings, a look at it, and a refusal of another kind. -/
def mixedUses : List Use :=
  [.parse "30", .setUpWith [("trace", 5), ("alert", 30)], .setUpWith [(" trace", 5), ("TRACE ", 5)],
    .nameOf ⟨5⟩, .setUpWith [("Trace", 5), ("alert", 31)]]

/-- The built-in levels and the one of `mixedUses` that is accepted. -/
def traced : Registry := Registry.defaults.withPair "TRACE" ⟨5⟩

/-- In the process after `mixedUses`, `trace` is a level, and asking for it again is accepted. -/
theorem registry_stable_mixedUses :
    after {} mixedUses = ⟨some traced⟩
      ∧ ((after {} mixedUses).ask (.setUpWith [("tracE", 5)])).1 = .levels (.ok traced) := by
  have huses : after {} mixedUses = ⟨some traced⟩ := by decide +kernel
  have hsetUp := (registry_stable huses).2.2.2.2.1
  refine ⟨huses, ?_⟩
  rw [huses, hsetUp _ _ rfl]
  decide +kernel

end Herald.ProcessLevels
