import Herald.Proofs.Level.Process
import Herald.Proofs.Tally
import Herald.Proofs.Wire.Time

/-!
# A name tells the level

Every level has a name, registered or not. Registered names are told apart by their
registry. The name of a level that is not registered spells out its rank in decimal
digits, and no name can be registered that reads the same: `Level 33` has small
letters, while names are kept in capitals, so whoever registers it gets `LEVEL 33`.

So a message on the wire tells the level of its record, although a name is all it has
beside the rank. The counters of records have nothing but names, and they are found by
the digests of these. They tell two levels apart exactly if the digests do.
-/

namespace Herald

open Json Wire

/-- Different ranks have different digits. -/
theorem Level.plainName_injective : Function.Injective Level.plainName := by
  intro a b h
  have hdigits : (toString a.rank) = toString b.rank := by
    simpa only [plainName, String.append_right_inj] using h
  have hnat : a.rank.toNat = b.rank.toNat := Nat.repr_inj.mp hdigits
  exact congrArg Level.mk (UInt32.toNat_inj.mp hnat)

/-- A name as it is kept has no small letters. -/
theorem isLower_of_mem_normalizeName {s : String} {c : Char} (h : c ∈ (normalizeName s).toList) :
    c.isLower = false := by
  rw [normalizeName, Text.toList_upperAscii] at h
  obtain ⟨c', -, rfl⟩ := List.mem_map.mp h
  exact Char.isLower_toUpper_eq_false c'

/-- A rank that is spelled out is no name as it is kept. -/
theorem Level.normalizeName_plainName_ne (l : Level) : normalizeName l.plainName ≠ l.plainName := by
  intro h
  have hsmall : 'e' ∈ l.plainName.toList := by
    rw [plainName, String.toList_append]
    exact List.mem_append_left _ (by decide)
  rw [← h] at hsmall
  exact absurd (isLower_of_mem_normalizeName hsmall) (by decide)

namespace Registry

variable {r : Registry} {a b : Level}

/-- **No two levels have the same name**, whichever of them are registered. -/
theorem Paired.name_injective (h : r.Paired) : Function.Injective (Level.name r) := by
  -- of a registered and an unregistered level only the first has a name as it is kept
  have hapart : ∀ {a b : Level} {n}, r.nameOf? a = some n → n ≠ b.plainName := by
    rintro a b n ha rfl
    exact b.normalizeName_plainName_ne (h.normal _ _ ha).2
  intro a b hname
  rw [Level.name, Level.name] at hname
  cases ha : r.nameOf? a with
  | some n =>
      cases hb : r.nameOf? b with
      | some n' =>
          rw [ha, hb] at hname
          obtain rfl : n = n' := hname
          have hnormal : normalizeName n = n := (h.normal _ _ ha).2
          rw [← hnormal, ← h.byName?_iff_nameOf?] at ha hb
          exact Option.some.inj (ha.symm.trans hb)
      | none =>
          rw [ha, hb] at hname
          exact absurd hname (hapart ha)
  | none =>
      cases hb : r.nameOf? b with
      | some n' =>
          rw [ha, hb] at hname
          exact absurd hname.symm (hapart hb)
      | none =>
          rw [ha, hb] at hname
          exact Level.plainName_injective hname

end Registry

/-! ## Where only the name is known -/

/-- On the wire a record keeps the rank of its level and the name. -/
theorem Message.exists_decode_ofRecord {t : Float} (ht : Decimal.exponentBits t ≤ 1087)
    (x : Record) (text : String) :
    ∃ d, decode (ofRecord t x text).encode = .ok d
      ∧ d.levelNo = x.level.rank ∧ d.levelName = x.levelName := by
  obtain ⟨y, hy⟩ := exists_readsBack ht
  exact ⟨_, decode_encode (startsValue_writeTime ht) hy, rfl, rfl⟩

namespace ProcessLevels

variable {uses : List Use} {r : Registry}

/-- What answers the lookups of a process is standard, also if the process had nothing installed. -/
theorem AnswersFrom.standard (hr : (after {} uses).AnswersFrom r) : Standard r := by
  have hsetUp : Answer.levels (.ok (after {} uses).install.1) = .levels (.ok r) := hr.setUp
  obtain rfl : (after {} uses).install.1 = r := Except.ok.inj (Answer.levels.inj hsetUp)
  have hafter : after {} (uses ++ [.setUp]) = (after {} uses).install.2 := by
    rw [after, List.foldl_append]
    rfl
  have hin := (after {} uses).installed_install
  rw [← hafter] at hin
  exact standard_after _ hin

/-- Counting one more record counts it for the levels whose names have its digest. -/
theorem count_bump_eq_add_one_iff (t : Tally) (a b : Level) :
    (t.bump (a.name r)).count (b.name r) = t.count (b.name r) + 1
      ↔ Text.digest (a.name r) = Text.digest (b.name r) := by
  rw [Tally.count_bump]
  split
  case isTrue h => exact iff_of_true rfl h
  case isFalse h => exact iff_of_false (by simp) h

section

variable {xs : List Record} {m : Metrics}

/-- **A counter of records has the name of one level, and counts what has the digest of that name.** -/
theorem label_tells_level (hinj : Function.Injective (Level.name r))
    (hxs : ∀ x ∈ xs, x.levelName = x.level.name r)
    (hm : m.records = (xs.map Record.levelName).foldl Tally.bump []) {f : Metrics.Family}
    (hf : f ∈ m.families) (hname : f.name = "tidings_log_records_total") {s : Metrics.Sample}
    (hs : s ∈ f.samples) :
    ∃ x ∈ xs, (∀ l : Level, s.label = some (l.name r) ↔ l = x.level)
      ∧ s.value = Metrics.exposed
          (xs.countP fun y => Text.digest y.levelName = Text.digest x.levelName) := by
  obtain ⟨first, hfirst, rfl⟩ := (Metrics.mem_samples_iff hm hf hname).mp hs
  obtain ⟨x, hx, rfl⟩ := List.mem_map.mp (List.mem_of_find?_eq_some hfirst)
  refine ⟨x, hx, fun l => ?_, by rw [List.countP_map]; rfl⟩
  rw [Option.some.injEq, hxs x hx, hinj.eq_iff]
  exact eq_comm

/-- **The counter of a level counts its records alone exactly if no others have its digest.** -/
theorem count_eq_countP_level_iff (hxs : ∀ x ∈ xs, x.levelName = x.level.name r)
    (hm : m.records = (xs.map Record.levelName).foldl Tally.bump []) (l : Level) :
    m.records.count (l.name r) = xs.countP (fun x => x.level = l)
      ↔ ∀ x ∈ xs, Text.digest x.levelName = Text.digest (l.name r) → x.level = l := by
  have hcount : m.records.count (l.name r)
      = xs.countP fun x => Text.digest x.levelName = Text.digest (l.name r) := by
    rw [hm, Tally.count_foldl_bump, List.countP_map]
    exact Nat.zero_add _
  rw [hcount, countP_eq_countP_iff]
  · simp only [decide_eq_true_eq]
  · intro x hx hlevel
    rw [hxs x hx, of_decide_eq_true hlevel]
    exact decide_eq_true rfl

/-- **All counted levels are shown exactly if no two of them have names of one digest.** -/
theorem all_levels_shown_iff (hinj : Function.Injective (Level.name r))
    (hxs : ∀ x ∈ xs, x.levelName = x.level.name r)
    (hm : m.records = (xs.map Record.levelName).foldl Tally.bump []) :
    (∀ x ∈ xs, ∃ f ∈ m.families, f.name = "tidings_log_records_total"
        ∧ ∃ s ∈ f.samples, s.label = some x.levelName)
      ↔ ∀ x ∈ xs, ∀ y ∈ xs, Text.digest x.levelName = Text.digest y.levelName →
          x.level = y.level := by
  simp only [Metrics.exists_sample_iff hm]
  constructor
  · intro hshown x hx y hy hdigest
    -- both are the first of that digest
    have hnames : x.levelName = y.levelName := by
      have hfirst := hshown x hx
      rw [hdigest, hshown y hy] at hfirst
      exact (Option.some.inj hfirst).symm
    rw [hxs x hx, hxs y hy] at hnames
    exact hinj hnames
  · intro hapart x hx
    have hsome : ((xs.map Record.levelName).find?
        fun n => Text.digest n = Text.digest x.levelName).isSome := by
      rw [List.find?_isSome]
      exact ⟨x.levelName, List.mem_map_of_mem hx, decide_eq_true rfl⟩
    obtain ⟨first, hfirst⟩ := Option.isSome_iff_exists.mp hsome
    obtain ⟨y, hy, rfl⟩ := List.mem_map.mp (List.mem_of_find?_eq_some hfirst)
    have hdigest : Text.digest y.levelName = Text.digest x.levelName := by
      simpa using List.find?_some hfirst
    have hnames : y.levelName = x.levelName := by
      rw [hxs y hy, hxs x hx, hapart y hy x hx hdigest]
    rw [hfirst, hnames]

end

/--
**A name tells which level it is the name of, and a counter does as far as digests do.**

Take any process and the registry that it answers from. No two levels have the same
name there, registered or not, and whenever the process is asked for the names of two
levels it gives the same name for the same level only. Messages that were shipped of two
records, with times that can be printed and read, tell the same level name exactly if they
tell the same rank.

Counters are found by the digests of names, and two levels share one exactly if their names
have the same digest. Whatever records were counted, the label of each counter is the name of
exactly one level, of which a record was counted, and its value is the number of the records
whose names have the digest of that label. So the counter of a level has the number of its
own records exactly if no record of another level has a name of its digest, and every level
that was counted is shown under its name exactly if no two of them have names of one digest.
-/
theorem name_tells_level (hr : (after {} uses).AnswersFrom r) :
    (∀ a b : Level, a.name r = b.name r ↔ a = b)
      ∧ (∀ a b more, ((((after {} uses).ask (.nameOf a)).2.after more).ask (.nameOf b)).1
            = ((after {} uses).ask (.nameOf a)).1 ↔ a = b)
      ∧ (∀ (x y : Record) (t u : Float) (text other : String),
          x.levelName = x.level.name r → y.levelName = y.level.name r →
          Decimal.exponentBits t ≤ 1087 → Decimal.exponentBits u ≤ 1087 →
          ∃ d e, Message.decode (Message.ofRecord t x text).encode = .ok d
            ∧ Message.decode (Message.ofRecord u y other).encode = .ok e
            ∧ d.levelNo = x.level.rank ∧ e.levelNo = y.level.rank
            ∧ (d.levelName = e.levelName ↔ d.levelNo = e.levelNo))
      ∧ (∀ (t : Tally) (a b : Level),
          (t.bump (a.name r)).count (b.name r) = t.count (b.name r) + 1
            ↔ Text.digest (a.name r) = Text.digest (b.name r))
      ∧ ∀ xs : List Record, (∀ x ∈ xs, x.levelName = x.level.name r) →
          ∀ m : Metrics, m.records = (xs.map Record.levelName).foldl Tally.bump [] →
            (∀ f ∈ m.families, f.name = "tidings_log_records_total" → ∀ s ∈ f.samples,
              ∃ x ∈ xs, (∀ l : Level, s.label = some (l.name r) ↔ l = x.level)
                ∧ s.value = Metrics.exposed
                    (xs.countP fun y => Text.digest y.levelName = Text.digest x.levelName))
            ∧ (∀ l : Level, m.records.count (l.name r) = xs.countP (fun x => x.level = l)
                ↔ ∀ x ∈ xs, Text.digest x.levelName = Text.digest (l.name r) → x.level = l)
            ∧ ((∀ x ∈ xs, ∃ f ∈ m.families, f.name = "tidings_log_records_total"
                  ∧ ∃ s ∈ f.samples, s.label = some x.levelName)
                ↔ ∀ x ∈ xs, ∀ y ∈ xs, Text.digest x.levelName = Text.digest y.levelName →
                    x.level = y.level) := by
  have hinj := hr.standard.paired.name_injective
  refine ⟨fun a b => hinj.eq_iff, fun a b more => ?_, fun x y t u text other hx hy ht hu => ?_,
    fun t a b => count_bump_eq_add_one_iff t a b, fun xs hxs m hm =>
      ⟨fun f hf hname s hs => label_tells_level hinj hxs hm hf hname hs,
        count_eq_countP_level_iff hxs hm, all_levels_shown_iff hinj hxs hm⟩⟩
  · have hin : ((after {} uses).ask (.nameOf a)).2.installed = some r := by
      have hsetUp : Answer.levels (.ok (after {} uses).install.1) = .levels (.ok r) := hr.setUp
      rw [← Except.ok.inj (Answer.levels.inj hsetUp)]
      exact (after {} uses).installed_install
    rw [hr.nameOf, (answersFrom_after hin more).2.nameOf, Answer.name.injEq, hinj.eq_iff]
    exact eq_comm
  · obtain ⟨d, hd, hdNo, hdName⟩ := Message.exists_decode_ofRecord ht x text
    obtain ⟨e, he, heNo, heName⟩ := Message.exists_decode_ofRecord hu y other
    refine ⟨d, e, hd, he, hdNo, heNo, ?_⟩
    rw [hdName, heName, hx, hy, hinj.eq_iff, hdNo, heNo]
    exact ⟨congrArg Level.rank, congrArg Level.mk⟩

/-- A level that is called as the spelled out rank of another one, and two of one digest. -/
def lookalike : List Use :=
  [.setUpWith [("JLMJLLDJJBHFMJHL", 26), ("GKGFBGPIHKAAPCCD", 27), ("level 33", 5)]]

/-- The built-in levels and those of `lookalike`. -/
def lookalikeLevels : Registry := twinLevels.withPair "LEVEL 33" ⟨5⟩

/-- A record at a level, as it is counted and shipped. -/
def recordAt (l : Level) : Record := .of lookalikeLevels ⟨1.5, "", ""⟩ l "m" "app" .unknown

/--
Records of the level of `lookalike` and of the one that it looks like are told apart as they
are shipped. Of the two levels of one digest the second one is not told apart: its record is
counted, and not under its name.
-/
theorem name_tells_level_lookalike :
    (⟨5⟩ : Level).name lookalikeLevels = "LEVEL 33"
      ∧ (⟨33⟩ : Level).name lookalikeLevels = "Level 33"
      ∧ (∃ d e, Message.decode (Message.ofRecord 1.5 (recordAt ⟨5⟩) "m").encode = .ok d
          ∧ Message.decode (Message.ofRecord 2.5 (recordAt ⟨33⟩) "m").encode = .ok e
          ∧ d.levelName ≠ e.levelName)
      ∧ ∀ m : Metrics,
          m.records = ([recordAt ⟨27⟩, recordAt ⟨26⟩].map Record.levelName).foldl Tally.bump [] →
            m.records.count ((⟨26⟩ : Level).name lookalikeLevels) ≠ 1
              ∧ ¬∃ f ∈ m.families, f.name = "tidings_log_records_total"
                ∧ ∃ s ∈ f.samples, s.label = some ((⟨26⟩ : Level).name lookalikeLevels) := by
  have hinstalled : after {} lookalike = ⟨some lookalikeLevels⟩ := by decide +kernel
  have hanswers : (after {} lookalike).AnswersFrom lookalikeLevels := by
    rw [hinstalled]
    exact answersFrom_install _
  obtain ⟨-, -, hwire, -, hcounters⟩ := name_tells_level hanswers
  obtain ⟨d, e, hd, he, hdNo, heNo, hiff⟩ :=
    hwire (recordAt ⟨5⟩) (recordAt ⟨33⟩) 1.5 2.5 "m" "m" rfl rfl
      (by decide +kernel) (by decide +kernel)
  refine ⟨by decide +kernel, by decide +kernel, ⟨d, e, hd, he, fun hsame => ?_⟩,
    fun m hm => ⟨fun hone => ?_, ?_⟩⟩
  · have hranks := hiff.mp hsame
    rw [hdNo, heNo] at hranks
    exact absurd hranks (by decide)
  · obtain ⟨-, hcount, -⟩ := hcounters _ (by simp [recordAt, Record.of]) m hm
    have hapart := (hcount ⟨26⟩).mp hone (recordAt ⟨27⟩) (.head _) (by decide +kernel)
    exact absurd hapart (by decide)
  · rw [Metrics.exists_sample_iff hm]
    decide +kernel

end ProcessLevels

end Herald
