import Herald.Proofs.Config.Validation
import Herald.Proofs.Level.Consistency
import Herald.Proofs.Text.Numeral

/-!
# Names among numerals

A level is written as a rank or as a name, and a registry takes any name that is not
blank, a numeral too. Numerals are read first. So a name that is a numeral means the
rank it spells, whoever has that name, and every other registered name means its level.
Both readings go by the normal form of the text, so that the spelling does not matter.
-/

namespace Herald

/-- A text that is the numeral of a rank, blanks around it aside. -/
def IsNumeral (text : String) (rank : UInt32) : Prop :=
  Text.Numeral.Spells (Text.trimChars text.toList) rank.toNat

variable {a b name text : String} {l : Level} {r : Registry}

theorem Level.ofNumeral?_eq_some_iff : Level.ofNumeral? text = some l ↔ IsNumeral text l.rank := by
  rw [ofNumeral?, Option.map_eq_some_iff, Text.Numeral.read?, Text.toList_trim]
  simp only [Option.filter_eq_some_iff, decide_eq_true_eq, Text.Numeral.chars?_eq_some_iff]
  constructor
  · rintro ⟨n, ⟨hspells, hlimit⟩, rfl⟩
    rwa [IsNumeral, UInt32.toNat_ofNat_of_lt' hlimit]
  · intro h
    exact ⟨l.rank.toNat, ⟨h, l.rank.toNat_lt⟩, congrArg Level.mk UInt32.ofNat_toNat⟩

theorem Level.ofNumeral?_eq_none_iff :
    Level.ofNumeral? text = none ↔ ∀ rank, ¬IsNumeral text rank := by
  rw [Option.eq_none_iff_forall_ne_some]
  constructor
  · exact fun h rank hrank => h ⟨rank⟩ (ofNumeral?_eq_some_iff.mpr hrank)
  · exact fun h l hl => h l.rank (ofNumeral?_eq_some_iff.mp hl)

/-- A text spells one rank at most. -/
theorem IsNumeral.unique {u v : UInt32} (hu : IsNumeral text u) (hv : IsNumeral text v) : u = v := by
  have hread := (Level.ofNumeral?_eq_some_iff (l := ⟨u⟩)).mpr hu
  rw [(Level.ofNumeral?_eq_some_iff (l := ⟨v⟩)).mpr hv] at hread
  exact (Level.mk.inj (Option.some.inj hread)).symm

/-- Another spelling of a numeral is the same numeral. -/
theorem Level.ofNumeral?_congr (h : Respells a b) : Level.ofNumeral? a = Level.ofNumeral? b := by
  have hchars : ∀ s : String, Text.Numeral.chars? (Text.trim s).toList
      = Text.Numeral.chars? (normalizeName s).toList := by
    intro s
    rw [toList_normalizeName, Text.Numeral.chars?_map_toUpper, Text.toList_trim]
  rw [ofNumeral?, ofNumeral?, Text.Numeral.read?, Text.Numeral.read?, hchars, hchars,
    respells_iff.mp h]

theorem Registry.byName?_congr (h : Respells a b) : r.byName? a = r.byName? b := by
  rw [byName?, byName?, respells_iff.mp h]

/-- **Under every spelling a registered name is read as its numeral, or else as its level.** -/
theorem Level.parse_spelling (hname : r.byName? name = some l) (h : Respells text name) :
    Level.parse r text = .ok ((Level.ofNumeral? name).getD l) := by
  rw [Level.parse, ofNumeral?_congr h, Registry.byName?_congr h, hname]
  cases ofNumeral? name with
  | some _ => rfl
  | none => rfl

theorem Level.getD_ofNumeral?_eq_iff :
    (Level.ofNumeral? name).getD l = l ↔ ∀ rank, IsNumeral name rank → rank = l.rank := by
  cases hread : Level.ofNumeral? name with
  | some l' =>
      have hnumeral := ofNumeral?_eq_some_iff.mp hread
      rw [Option.getD_some]
      constructor
      · rintro rfl rank hrank
        exact hrank.unique hnumeral
      · exact fun h => congrArg Level.mk (h _ hnumeral)
  | none =>
      have hno := ofNumeral?_eq_none_iff.mp hread
      exact iff_of_true rfl fun rank hrank => absurd hrank (hno rank)

namespace ProcessLevels

variable {p : ProcessLevels} {xs : List (String × UInt32)}

/--
**A registered level is parsed from its name, unless the name is the numeral of another rank.**

Take any list of levels accepted on top of the built-in ones, in a process that has
installed the resulting registry, and any text that spells a registered name. It is
parsed to the registered level exactly if the name is no numeral of another rank; the
numeral of a rank is parsed to the level with that rank. The threshold of the root is
read in the same way. The levels of the list and the built-in ones are registered under
their names, the built-in ones are parsed from every spelling of theirs, and a registered
level is called by a registered name, from which it is parsed with that one exception.
-/
theorem parse_registered (hreg : Registry.defaults.registerAll xs = .ok r)
    (hp : p.installed = some r) :
    (∀ name l, r.byName? name = some l → ∀ text, Respells text name →
        ((p.ask (.parse text)).1 = .parsed (.ok l)
            ↔ ∀ rank, IsNumeral name rank → rank = l.rank)
          ∧ (∀ rank, IsNumeral name rank → (p.ask (.parse text)).1 = .parsed (.ok ⟨rank⟩))
          ∧ ∀ c : Config, c.rootLevel = text → ∀ l',
              c.root r = .ok l' ↔ (p.ask (.parse text)).1 = .parsed (.ok l'))
      ∧ (∀ x ∈ Level.builtinPairs ++ xs, r.byName? x.1 = some ⟨x.2⟩)
      ∧ (∀ b ∈ Level.builtin, ∀ text, Respells text b.1 →
          (p.ask (.parse text)).1 = .parsed (.ok b.2))
      ∧ ∀ l n, r.nameOf? l = some n →
          (p.ask (.nameOf l)).1 = .name n ∧ r.byName? n = some l
            ∧ ((p.ask (.parse n)).1 = .parsed (.ok l)
              ↔ ∀ rank, IsNumeral n rank → rank = l.rank) := by
  have hall := Registry.records_defaults.registerAll hreg
  have hanswers := (answersFrom_after hp []).2
  have hparsed : ∀ {name l}, r.byName? name = some l → ∀ {text}, Respells text name →
      (p.ask (.parse text)).1 = .parsed (.ok ((Level.ofNumeral? name).getD l)) := by
    intro name l hname text htext
    exact (hanswers.parse text).trans (congrArg Answer.parsed (Level.parse_spelling hname htext))
  have hback : ∀ {name l}, r.byName? name = some l → ∀ {text}, Respells text name →
      ((p.ask (.parse text)).1 = .parsed (.ok l)
        ↔ ∀ rank, IsNumeral name rank → rank = l.rank) := by
    intro name l hname text htext
    rw [hparsed hname htext, Answer.parsed.injEq, Except.ok.injEq, Level.getD_ofNumeral?_eq_iff]
  refine ⟨fun name l hname text htext => ⟨hback hname htext, fun rank hrank => ?_,
    fun c hc l' => ?_⟩, fun x hx => hall.byName?_of_mem hx, fun b hb text htext => ?_,
    fun l n hn => ?_⟩
  · rw [hparsed hname htext, (Level.ofNumeral?_eq_some_iff (l := ⟨rank⟩)).mpr hrank]
    rfl
  · have hroot := Config.root_of_parse (Level.parse_spelling hname (hc.symm ▸ htext))
    rw [hparsed hname htext, hroot, Answer.parsed.injEq, Except.ok.injEq, Except.ok.injEq]
  · have hname : r.byName? b.1 = some b.2 := ((standard_registerAll hreg).builtin_lookups b hb).1
    have hno : ∀ b ∈ Level.builtin, Level.ofNumeral? b.1 = none := by decide +kernel
    rw [hparsed hname htext, hno b hb]
    rfl
  · have hnormal := (hall.paired.normal _ _ hn).2
    have hname : r.byName? n = some l := by
      rw [hall.paired.byName?_iff_nameOf?, hnormal]
      exact hn
    refine ⟨(hanswers.nameOf l).trans ?_, hname, hback hname (.refl n)⟩
    rw [Level.name, hn]
    rfl

/-- A level called by the numeral of another rank, one called by its own, and one with a name. -/
def numbered : List (String × UInt32) := [("35", 60), ("+7", 7), ("audit", 35)]

/-- The built-in levels and those of `numbered`. -/
def numberedLevels : Registry :=
  ((Registry.defaults.withPair "35" ⟨60⟩).withPair "+7" ⟨7⟩).withPair "AUDIT" ⟨35⟩

theorem registerAll_numbered :
    Registry.defaults.registerAll numbered = .ok numberedLevels := by decide +kernel

/-- In a process with the levels of `numbered`, `audit` and `35` both mean the level of rank 35. -/
theorem parse_registered_numbered :
    numberedLevels.byName? "audit" = some ⟨35⟩ ∧ numberedLevels.byName? "35" = some ⟨60⟩
      ∧ (ask ⟨some numberedLevels⟩ (.parse "\tAudit")).1 = .parsed (.ok ⟨35⟩)
      ∧ (ask ⟨some numberedLevels⟩ (.parse "35 ")).1 = .parsed (.ok ⟨35⟩) := by
  obtain ⟨hspelled, hnames, -⟩ :=
    parse_registered (p := ⟨some numberedLevels⟩) registerAll_numbered rfl
  have haudit := hnames ("audit", 35) (by decide +kernel)
  have hnumeral := hnames ("35", 60) (by decide +kernel)
  have hno : ∀ rank, ¬IsNumeral "audit" rank :=
    Level.ofNumeral?_eq_none_iff.mp (by decide +kernel)
  have hrank : IsNumeral "35" 35 :=
    (Level.ofNumeral?_eq_some_iff (l := ⟨35⟩)).mp (by decide +kernel)
  refine ⟨haudit, hnumeral, ?_, ?_⟩
  · refine (hspelled _ _ haudit "\tAudit" (by decide +kernel)).1.mpr fun rank h => ?_
    exact absurd h (hno rank)
  · exact (hspelled _ _ hnumeral "35 " (by decide +kernel)).2.1 35 hrank

/-- Not every registered level is parsed from its name. -/
theorem not_parse_registered_name :
    ¬∀ (xs : List (String × UInt32)) (r : Registry) (p : ProcessLevels),
      Registry.defaults.registerAll xs = .ok r → p.installed = some r →
        ∀ name l, r.byName? name = some l → ∀ text, Respells text name →
          (p.ask (.parse text)).1 = .parsed (.ok l) := by
  intro h
  have hparsed := h _ _ ⟨some numberedLevels⟩ registerAll_numbered rfl "35" ⟨60⟩
    (by decide +kernel) "35" (by decide +kernel)
  -- it is read as the level of rank 35
  revert hparsed
  decide +kernel

end ProcessLevels

end Herald
