import Herald.Proofs.Level.Process
import Herald.Proofs.Level.Spelling

/-!
# Registrations as a set

A registration looks only at what was registered before it. Taken together, though,
the pairs of a registry obey a law that knows no order: two of them have the same name
exactly if they have the same rank (`Consistent`). The link between the two is
`Records`, what a registry holds after some pairs: a further pair is accepted exactly if
the law still holds with it. So whether a list is accepted, and what comes of it,
depends on which pairs it has and on nothing else.
-/

namespace Herald

/-- The built-in levels, as pairs of a name and a rank. -/
def Level.builtinPairs : List (String × UInt32) := Level.builtin.map fun b => (b.1, b.2.rank)

/-- Of any two pairs, the names are the same exactly if the ranks are. -/
def Consistent (pairs : List (String × UInt32)) : Prop :=
  ∀ x ∈ pairs, ∀ y ∈ pairs, normalizeName x.1 = normalizeName y.1 ↔ x.2 = y.2

instance (pairs : List (String × UInt32)) : Decidable (Consistent pairs) :=
  inferInstanceAs (Decidable (∀ x ∈ pairs, ∀ y ∈ pairs, _ ↔ _))

/-- Each pair of either list is in the other one, in some spelling and any number of times. -/
def Restates (xs ys : List (String × UInt32)) : Prop :=
  (∀ x ∈ xs, ∃ y ∈ ys, Respells x.1 y.1 ∧ x.2 = y.2)
    ∧ ∀ y ∈ ys, ∃ x ∈ xs, Respells x.1 y.1 ∧ x.2 = y.2

instance (xs ys : List (String × UInt32)) : Decidable (Restates xs ys) :=
  inferInstanceAs (Decidable (_ ∧ _))

/-- The entry that registering a pair makes. -/
def Registry.entry (x : String × UInt32) : Level × String := (⟨x.2⟩, normalizeName x.1)

variable {xs ys : List (String × UInt32)} {x : String × UInt32}

theorem Consistent.subset (h : Consistent ys) (hsub : xs ⊆ ys) : Consistent xs :=
  fun x hx y hy => h x (hsub hx) y (hsub hy)

theorem Restates.symm (h : Restates xs ys) : Restates ys xs := by
  refine ⟨fun y hy => ?_, fun x hx => ?_⟩
  · obtain ⟨x, hx, hname, hrank⟩ := h.2 y hy
    exact ⟨x, hx, hname.symm, hrank.symm⟩
  · obtain ⟨y, hy, hname, hrank⟩ := h.1 x hx
    exact ⟨y, hy, hname.symm, hrank.symm⟩

namespace Registry

theorem entry_eq_iff {x y : String × UInt32} :
    entry x = entry y ↔ Respells x.1 y.1 ∧ x.2 = y.2 := by
  rw [entry, entry, Prod.mk.injEq, Level.mk.injEq, respells_iff, and_comm]

/-- **Lists that restate each other make the same entries.** -/
theorem restates_iff : Restates xs ys ↔ ∀ e, e ∈ xs.map entry ↔ e ∈ ys.map entry := by
  unfold Restates
  simp only [← entry_eq_iff, List.mem_map]
  constructor
  · rintro ⟨hforth, hback⟩ e
    refine ⟨?_, ?_⟩
    · rintro ⟨x, hx, rfl⟩
      obtain ⟨y, hy, hsame⟩ := hforth x hx
      exact ⟨y, hy, hsame.symm⟩
    · rintro ⟨y, hy, rfl⟩
      exact hback y hy
  · intro h
    refine ⟨fun x hx => ?_, fun y hy => (h (entry y)).mpr ⟨y, hy, rfl⟩⟩
    obtain ⟨y, hy, hsame⟩ := (h (entry x)).mp ⟨x, hx, rfl⟩
    exact ⟨y, hy, hsame.symm⟩

theorem consistent_iff : Consistent xs ↔
    ∀ e ∈ xs.map entry, ∀ f ∈ xs.map entry, e.2 = f.2 ↔ e.1 = f.1 := by
  simp only [Consistent, List.forall_mem_map, entry, Level.mk.injEq]

theorem forall_not_blank_iff :
    (∀ x ∈ xs, Text.isBlankText x.1 = false) ↔ ∀ e ∈ xs.map entry, e.2 ≠ "" := by
  simp only [List.forall_mem_map, entry, ne_eq, normalizeName_eq_empty_iff, Bool.not_eq_true]

/-! ## What a registry holds after some pairs -/

/-- A registry with the entries of these pairs and no others. -/
structure Records (r : Registry) (xs : List (String × UInt32)) : Prop where
  paired : r.Paired
  mem_iff : ∀ {e}, e ∈ r.levels ↔ e ∈ xs.map entry

variable {r r' : Registry} {l : Level} {s n : String}

theorem records_empty : empty.Records [] := ⟨paired_empty, by simp [empty, levels, SortedTable.empty]⟩

theorem Records.byName?_eq_some_iff (h : r.Records xs) :
    r.byName? s = some l ↔ ∃ x ∈ xs, Respells x.1 s ∧ x.2 = l.rank := by
  have hpair : (l, normalizeName s) = entry (s, l.rank) := rfl
  rw [h.paired.byName?_eq_some_iff, h.mem_iff, hpair, List.mem_map]
  simp only [entry_eq_iff]

theorem Records.nameOf?_eq_some_iff (h : r.Records xs) :
    r.nameOf? l = some n ↔ ∃ x ∈ xs, normalizeName x.1 = n ∧ x.2 = l.rank := by
  rw [Registry.nameOf?_eq_some_iff, h.mem_iff, List.mem_map]
  have hentry : ∀ x : String × UInt32,
      entry x = (l, n) ↔ normalizeName x.1 = n ∧ x.2 = l.rank := by
    intro x
    rw [entry, Prod.mk.injEq, and_comm, ← Level.mk.injEq]
  simp only [hentry]

theorem Records.byName?_of_mem (h : r.Records xs) (hx : x ∈ xs) : r.byName? x.1 = some ⟨x.2⟩ :=
  h.byName?_eq_some_iff.mpr ⟨x, hx, .refl _, rfl⟩

theorem Records.nameOf?_of_mem (h : r.Records xs) (hx : x ∈ xs) :
    r.nameOf? ⟨x.2⟩ = some (normalizeName x.1) :=
  h.nameOf?_eq_some_iff.mpr ⟨x, hx, rfl, rfl⟩

theorem Records.consistent (h : r.Records xs) : Consistent xs := by
  intro x hx y hy
  constructor
  · intro hsame
    have hfound : r.nameOf? ⟨x.2⟩ = some (normalizeName y.1) := hsame ▸ h.nameOf?_of_mem hx
    have hlevels := (h.byName?_of_mem hy).symm.trans (h.paired.byName?_iff_nameOf?.mpr hfound)
    exact (Level.mk.inj (Option.some.inj hlevels)).symm
  · intro hsame
    have hnames := h.nameOf?_of_mem hx
    rw [hsame, h.nameOf?_of_mem hy] at hnames
    exact (Option.some.inj hnames).symm

theorem Records.register (h : r.Records xs) (hreg : r.register x.1 x.2 = (.ok l, r')) :
    r'.Records (xs ++ [x]) := by
  have hpaired := h.paired.register x.1 x.2
  rw [hreg] at hpaired
  refine ⟨hpaired, fun {e} => ?_⟩
  rw [List.map_append, List.mem_append, List.map_singleton, List.mem_singleton, ← h.mem_iff]
  obtain ⟨-, -, ⟨hthere, rfl⟩ | ⟨-, hrank, rfl⟩⟩ := register_eq_ok_iff.mp hreg
  · have hmem : entry x ∈ r'.levels := h.paired.byName?_eq_some_iff.mp hthere
    exact ⟨.inl, fun he => he.elim id fun he => he ▸ hmem⟩
  · rw [mem_levels_withPair hrank, or_comm]
    rfl

/-- **A pair is accepted exactly if it is consistent with those before it.** -/
theorem Records.exists_register_iff (h : r.Records xs) :
    (∃ l r', r.register x.1 x.2 = (.ok l, r')) ↔
      Text.isBlankText x.1 = false ∧ Consistent (xs ++ [x]) := by
  constructor
  · rintro ⟨l, r', hreg⟩
    have hkey := (register_eq_ok_iff.mp hreg).2.1
    rw [ne_eq, normalizeName_eq_empty_iff, Bool.not_eq_true] at hkey
    exact ⟨hkey, (h.register hreg).consistent⟩
  · rintro ⟨hblank, hall⟩
    have hkey : normalizeName x.1 ≠ "" := by
      rw [ne_eq, normalizeName_eq_empty_iff, hblank]
      exact Bool.false_ne_true
    have hnew : ∀ y ∈ xs, normalizeName y.1 = normalizeName x.1 ↔ y.2 = x.2 := fun y hy =>
      hall y (List.mem_append_left _ hy) x (List.mem_append_right _ List.mem_cons_self)
    simp only [register_eq_ok_iff]
    cases hname : r.byName? x.1 with
    | some l =>
        obtain ⟨y, hy, hsame, hrank⟩ := h.byName?_eq_some_iff.mp hname
        have hlevel : l = ⟨x.2⟩ := by
          rw [← (hnew y hy).mp (respells_iff.mp hsame), hrank]
        exact ⟨_, r, rfl, hkey, .inl ⟨congrArg some hlevel, rfl⟩⟩
    | none =>
        have hfree : r.nameOf? ⟨x.2⟩ = none := by
          rw [Option.eq_none_iff_forall_ne_some]
          intro n hn
          obtain ⟨y, hy, -, hrank⟩ := h.nameOf?_eq_some_iff.mp hn
          have hfound : r.byName? x.1 = some ⟨x.2⟩ := h.byName?_eq_some_iff.mpr
            ⟨y, hy, respells_iff.mpr ((hnew y hy).mpr hrank), hrank⟩
          rw [hname] at hfound
          cases hfound
        exact ⟨_, _, rfl, hkey, .inr ⟨rfl, hfree, rfl⟩⟩

/-! ## Pairs one after another -/

theorem registerAll_cons_eq_ok_iff :
    r.registerAll (x :: ys) = .ok r' ↔
      ∃ l r₁, r.register x.1 x.2 = (.ok l, r₁) ∧ r₁.registerAll ys = .ok r' := by
  rw [Registry.registerAll]
  obtain ⟨answer, r₁⟩ := r.register x.1 x.2
  cases answer with
  | ok l => simp
  | error e => simp

theorem Records.registerAll (h : r.Records xs) (hreg : r.registerAll ys = .ok r') :
    r'.Records (xs ++ ys) := by
  induction ys generalizing r xs with
  | nil =>
      obtain rfl := Except.ok.inj hreg
      rwa [List.append_nil]
  | cons y ys ih =>
      obtain ⟨l, r₁, hfirst, hrest⟩ := registerAll_cons_eq_ok_iff.mp hreg
      rw [List.append_cons]
      exact ih (h.register hfirst) hrest

/-- **A list is accepted exactly if all its pairs are consistent with each other and with
those before them.** -/
theorem Records.exists_registerAll_iff (h : r.Records xs) :
    (∃ r', r.registerAll ys = .ok r') ↔
      (∀ y ∈ ys, Text.isBlankText y.1 = false) ∧ Consistent (xs ++ ys) := by
  induction ys generalizing r xs with
  | nil => exact iff_of_true ⟨r, rfl⟩ ⟨by simp, (List.append_nil xs).symm ▸ h.consistent⟩
  | cons y ys ih =>
      simp only [registerAll_cons_eq_ok_iff, List.forall_mem_cons]
      rw [List.append_cons]
      constructor
      · rintro ⟨r', l, r₁, hfirst, hrest⟩
        have hblank := (h.exists_register_iff.mp ⟨l, r₁, hfirst⟩).1
        obtain ⟨hblanks, hall⟩ := (ih (h.register hfirst)).mp ⟨r', hrest⟩
        exact ⟨⟨hblank, hblanks⟩, hall⟩
      · rintro ⟨⟨hblank, hblanks⟩, hall⟩
        -- what holds of all pairs holds of those up to the first
        have hprefix := hall.subset (List.subset_append_left (xs ++ [y]) ys)
        obtain ⟨l, r₁, hfirst⟩ := h.exists_register_iff.mpr ⟨hblank, hprefix⟩
        obtain ⟨r', hrest⟩ := (ih (h.register hfirst)).mpr ⟨hblanks, hall⟩
        exact ⟨r', l, r₁, hfirst, hrest⟩

theorem records_defaults : defaults.Records Level.builtinPairs :=
  records_empty.registerAll registerAll_builtin

/-- Registries with the same entries are the same, since they answer alike. -/
theorem Records.ext (h : r.Records xs) (h' : r'.Records ys)
    (hsame : ∀ e, e ∈ xs.map entry ↔ e ∈ ys.map entry) : r = r' := by
  have hmem : ∀ {e}, e ∈ r.levels ↔ e ∈ r'.levels := fun {e} => by
    rw [h.mem_iff, h'.mem_iff, hsame]
  have hranks : r.ranks = r'.ranks := SortedTable.ext_get? fun l => by
    ext n
    rw [← nameOf?, ← nameOf?, Registry.nameOf?_eq_some_iff, Registry.nameOf?_eq_some_iff, hmem]
  have hnames : r.names = r'.names := SortedTable.ext_get? fun n => by
    ext l
    rw [h.paired.inverse, h'.paired.inverse, hranks]
  cases r
  cases r'
  exact congrArg₂ Registry.mk hranks hnames

/-- **A list that restates an accepted one is accepted and gives the same registry.** -/
theorem Records.registerAll_of_restates (h : r.Records xs) {zs : List (String × UInt32)}
    (hsame : Restates ys zs) (hreg : r.registerAll ys = .ok r') : r.registerAll zs = .ok r' := by
  have hentries : ∀ e, e ∈ (xs ++ ys).map entry ↔ e ∈ (xs ++ zs).map entry := by
    simp only [List.map_append, List.mem_append, restates_iff.mp hsame, implies_true]
  obtain ⟨hblank, hall⟩ := h.exists_registerAll_iff.mp ⟨r', hreg⟩
  have hblank' : ∀ z ∈ zs, Text.isBlankText z.1 = false := by
    rw [forall_not_blank_iff] at hblank ⊢
    intro e he
    exact hblank e ((restates_iff.mp hsame e).mpr he)
  have hall' : Consistent (xs ++ zs) := by
    rw [consistent_iff] at hall ⊢
    intro e he f hf
    exact hall e ((hentries e).mpr he) f ((hentries f).mpr hf)
  obtain ⟨r'', hreg'⟩ := h.exists_registerAll_iff.mpr ⟨hblank', hall'⟩
  rw [hreg', (h.registerAll hreg').ext (h.registerAll hreg) fun e => (hentries e).symm]

/--
**Registering a list of levels depends on its set only.**

On top of the built-in levels all pairs of a list are accepted exactly if no name is
blank and, among these pairs and the built-in ones, the names of two are the same exactly
if their ranks are. Then the two lookups find each of these pairs, under every spelling
of its name, and nothing else. The order of the list, repetitions and spellings do not
matter: a list with the same pairs is accepted or refused alike, and it gives the same
registry. The first initialisation of a process with such a list installs that registry,
or fails as the registrations do.
-/
theorem registerAll_of_set (xs : List (String × UInt32)) :
    ((∃ r, defaults.registerAll xs = .ok r) ↔
        (∀ x ∈ xs, Text.isBlankText x.1 = false) ∧ Consistent (Level.builtinPairs ++ xs))
      ∧ (∀ r, defaults.registerAll xs = .ok r →
          (∀ s l, r.byName? s = some l ↔
            ∃ x ∈ Level.builtinPairs ++ xs, Respells x.1 s ∧ x.2 = l.rank)
            ∧ ∀ l n, r.nameOf? l = some n ↔
              ∃ x ∈ Level.builtinPairs ++ xs, normalizeName x.1 = n ∧ x.2 = l.rank)
      ∧ (∀ ys, Restates xs ys → ∀ r,
          defaults.registerAll ys = .ok r ↔ defaults.registerAll xs = .ok r)
      ∧ ∀ p : ProcessLevels, p.installed = none → ∀ r,
          p.installWith xs = (.ok r, ⟨some r⟩) ↔ defaults.registerAll xs = .ok r := by
  refine ⟨records_defaults.exists_registerAll_iff, fun r hreg => ?_, fun ys hsame r => ⟨?_, ?_⟩,
    fun p hp r => ?_⟩
  · have hall := records_defaults.registerAll hreg
    exact ⟨fun s l => hall.byName?_eq_some_iff, fun l n => hall.nameOf?_eq_some_iff⟩
  · exact records_defaults.registerAll_of_restates hsame.symm
  · exact records_defaults.registerAll_of_restates hsame
  · obtain ⟨r₁, hreg, heq⟩ | ⟨e, hreg, heq⟩ :=
      ProcessLevels.installWith_of_not_installed hp xs
    · rw [heq, hreg, Prod.mk.injEq, Except.ok.injEq]
      exact ⟨And.left, fun he => ⟨he, congrArg (fun r => ProcessLevels.mk (some r)) he⟩⟩
    · rw [heq, hreg]
      simp

/-- Two levels besides the built-in ones. -/
def twoLevels : List (String × UInt32) := [("trace", 5), ("Audit", 35)]

/-- The levels of `twoLevels` the other way round, in other spellings and one of them twice. -/
def retold : List (String × UInt32) := [(" AUDIT\u3000", 35), ("TRACE\t", 5), ("audit", 35)]

/-- `retold` gives what `twoLevels` gives, and there both levels are found. -/
theorem registerAll_of_set_retold :
    ∃ r, Restates twoLevels retold ∧ defaults.registerAll retold = .ok r
      ∧ r.byName? "tRACE " = some ⟨5⟩ ∧ r.nameOf? ⟨35⟩ = some "AUDIT" := by
  have hsame : Restates twoLevels retold := by decide +kernel
  obtain ⟨hiff, hlookups, hset, -⟩ := registerAll_of_set twoLevels
  obtain ⟨r, hreg⟩ := hiff.mpr ⟨by decide +kernel, by decide +kernel⟩
  obtain ⟨hname, hrank⟩ := hlookups r hreg
  refine ⟨r, hsame, (hset retold hsame r).mpr hreg, (hname _ _).mpr ?_, (hrank _ _).mpr ?_⟩
  · decide +kernel
  · decide +kernel

end Registry

end Herald
