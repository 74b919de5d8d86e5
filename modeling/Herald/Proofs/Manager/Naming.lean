import Herald.Proofs.Manager.Threshold
import Herald.Proofs.Text.Trim

/-!
# What a text means as a name

A logger is asked for by a text, and blanks around it do not count: the text `Denotes`
the name between them, and if there is nothing between them the name of the root
logger. A threshold is set for a text as it stands, blanks and all.

So the two agree on a text exactly if it denotes itself. Then the threshold set under
it is the nearest one that its logger can have. Any other text is no name above the
logger that it denotes: it is too long, or it is blank and no part of `root` that ends
before a dot. A threshold set under it misses that logger.

Clearing is done for a text as it stands, too, so it takes back what was set.
-/

namespace Herald

/-- The name of the logger that a text asks for. -/
inductive Denotes (text : String) : String → Prop where
  | root (h : ∀ c ∈ text.toList, Text.isBlank c = true) : Denotes text "root"
  | name {key : String} (hne : key ≠ "") (hbare : Text.Bare key.toList)
      (h : Text.Padded key.toList text.toList) : Denotes text key

/-- Nothing around the text is blank, and there is something. -/
def IsName (text : String) : Prop := text ≠ "" ∧ Text.Bare text.toList

instance (text : String) : Decidable (IsName text) := inferInstanceAs (Decidable (_ ∧ _))

namespace Manager

variable {text key : String}

/-- **A logger is found under the name that the text denotes.** -/
theorem loggerName_eq_iff : loggerName text = key ↔ Denotes text key := by
  rw [loggerName]
  split
  case isTrue hblank =>
    constructor
    · rintro rfl
      exact .root (Text.isBlankText_iff.mp hblank)
    · rintro (_ | ⟨hne, hbare, hpadded⟩)
      · rfl
      · rw [Text.isBlankText_iff_trim, Text.trim_eq_iff.mpr ⟨hpadded, hbare⟩] at hblank
        exact absurd hblank hne
  case isFalse hblank =>
    constructor
    · rintro rfl
      obtain ⟨hpadded, hbare⟩ := Text.trim_eq_iff.mp (rfl : Text.trim text = Text.trim text)
      exact .name (mt Text.isBlankText_iff_trim.mpr hblank) hbare hpadded
    · rintro (h | ⟨-, hbare, hpadded⟩)
      · exact absurd (Text.isBlankText_iff.mpr h) hblank
      · exact Text.trim_eq_iff.mpr ⟨hpadded, hbare⟩

/-- Two texts ask for the same logger exactly if they denote the same name. -/
theorem loggerName_eq_loggerName_iff {other : String} :
    loggerName text = loggerName other ↔ ∃ key, Denotes text key ∧ Denotes other key := by
  simp only [← loggerName_eq_iff]
  constructor
  · exact fun h => ⟨_, h, rfl⟩
  · rintro ⟨key, h, h'⟩
    exact h.trans h'.symm

theorem loggerName_eq_self_iff : loggerName text = text ↔ IsName text := by
  rw [loggerName_eq_iff]
  constructor
  · intro h
    cases h with
    | root h => exact ⟨by decide, by decide +kernel⟩
    | name hne hbare h => exact ⟨hne, hbare⟩
  · rintro ⟨hne, hbare⟩
    exact .name hne hbare (.refl _)

/-- A text that does not denote itself is no name above the logger that it denotes. -/
theorem not_isAncestor_loggerName (h : loggerName text ≠ text) :
    ¬IsAncestor text (loggerName text) := by
  rintro (heq | hprefix)
  · exact h heq.symm
  · rw [loggerName] at hprefix
    split at hprefix
    case isTrue _ =>
      have hdot := hprefix.subset (List.mem_append_right _ List.mem_cons_self)
      exact absurd hdot (by decide)
    case isFalse _ =>
      have hlen := hprefix.length_le
      have hle := Text.length_trimChars_le text.toList
      rw [Text.toList_trim, List.length_append, List.length_singleton] at hlen
      omega

variable {q q₁ q₂ : Manager} {hist₁ hist₂ : History} {l : Level}

/-- **A threshold set under a logger's own name is in force for it.** -/
theorem effectiveLevel_setLevel_self (hl : l ≠ Level.notset)
    (hown : (q.logger key).level = Level.notset) : (q.setLevel key l).effectiveLevel key = l := by
  have hlevel : ((q.setLevel key l).logger key).level = Level.notset := hown
  have hset : (q.setLevel key l).subtreeLevel? key = some l := by
    rw [subtreeLevel?_setLevel, if_pos rfl, if_neg hl]
  -- the walk up the name starts at the name itself
  rw [effectiveLevel_eq, hlevel, if_pos rfl, inheritedLevel, lineage, List.findSome?_cons, hset]
  rfl

/-- A threshold set under a text that does not denote itself is not in force for its logger. -/
theorem effectiveLevel_setLevel_of_ne (h : loggerName text ≠ text) :
    (q.setLevel text l).effectiveLevel (loggerName text) = q.effectiveLevel (loggerName text) := by
  refine effectiveLevel_congr rfl (fun p hp => ?_) rfl
  rw [subtreeLevel?_setLevel, if_neg]
  rintro rfl
  exact not_isAncestor_loggerName h hp

theorem latest_isSome {α : Type} {f : Operation → Option α} {ops : List Operation} {o : Operation}
    (ho : o ∈ ops) (hf : (f o).isSome = true) : (latest f ops).isSome = true := by
  obtain ⟨a, ha⟩ := Option.isSome_iff_exists.mp hf
  rw [latest, List.getLast?_isSome]
  exact List.ne_nil_of_mem (List.mem_filterMap.mpr ⟨o, ho, ha⟩)

/-- **Once it has been taken back, a threshold has never been there.** -/
theorem effectiveLevel_of_cleared {p : String} (h₁ : Course (q.setLevel p l) hist₁ q₁)
    (h₂ : Course q hist₂ q₂) (hops : operations hist₁ = operations hist₂)
    (hclear : .clearLevel p ∈ operations hist₁) (key : String) :
    q₁.effectiveLevel key = q₂.effectiveLevel key := by
  have hq₁ := holds_course h₁
  have hq₂ := holds_course h₂
  rw [← hops] at hq₂
  refine effectiveLevel_congr ?_ (fun p' _ => ?_) ?_
  · rw [hq₁.level, hq₂.level]
    rfl
  · rw [hq₁.subtreeLevel?, hq₂.subtreeLevel?, subtreeLevel?_setLevel]
    split
    case isTrue hp =>
      -- what was said last about `p` was said after the threshold was set
      have hsaid : (latest (Operation.subtree? p') (operations hist₁)).isSome = true :=
        latest_isSome hclear (by rw [Operation.subtree?, if_pos hp]; rfl)
      obtain ⟨said, hsaid⟩ := Option.isSome_iff_exists.mp hsaid
      rw [hsaid]
      rfl
    case isFalse _ => rfl
  · rw [hq₁.rootLevel, hq₂.rootLevel]
    rfl

theorem key_of_getLogger {m q : Manager} {text key : String} (h : q.getLogger text = (m, key)) :
    loggerName text = key := by
  rw [← snd_getLogger q, h]

/--
**A threshold reaches the logger of its name exactly if the name is written without blanks.**

Whatever happened to a manager before, set a threshold for a text and then ask for the
logger of that text. If that logger has no level of its own, the threshold is in force
for it in case the text is not empty and neither end of it is blank. In case it is
anything else, what is in force is what was in force before. Once the threshold has been
cleared under the same text, whatever comes before or after, it makes no difference to
any logger that it was ever set.
-/
theorem threshold_reaches_logger (q : Manager) (text : String) (l : Level) (hl : l ≠ Level.notset) :
    (∀ m key, (q.setLevel text l).getLogger text = (m, key) →
        (m.logger key).level = Level.notset →
        m.effectiveLevel key = if IsName text then l else q.effectiveLevel key)
      ∧ (∀ m key, q.getLogger text = (m, key) → Denotes text key)
      ∧ ∀ hist₁ hist₂ q₁ q₂, Course (q.setLevel text l) hist₁ q₁ → Course q hist₂ q₂ →
          operations hist₁ = operations hist₂ → .clearLevel text ∈ operations hist₁ →
          ∀ key, q₁.effectiveLevel key = q₂.effectiveLevel key := by
  refine ⟨fun m key hget hown => ?_, fun m key hget => ?_, fun hist₁ hist₂ q₁ q₂ h₁ h₂ hops hclear =>
    effectiveLevel_of_cleared h₁ h₂ hops hclear⟩
  · have hrules := sameRules_getLogger (q.setLevel text l) text
    rw [hget] at hrules
    rw [hrules.logger] at hown
    obtain rfl := key_of_getLogger hget
    rw [hrules.effectiveLevel]
    split
    case isTrue hname =>
      rw [loggerName_eq_self_iff.mpr hname] at hown ⊢
      exact effectiveLevel_setLevel_self hl hown
    case isFalse hname =>
      exact effectiveLevel_setLevel_of_ne (mt loggerName_eq_self_iff.mp hname)
  · exact loggerName_eq_iff.mp (key_of_getLogger hget)

/-- A manager with nothing set but the level of the root. -/
def plainStart : Manager := assemble .defaults localPlan Level.info none

/-- The root is changed, and then the threshold of `app` is taken back. -/
def clearingCalls : List Call :=
  [.setRootLevel Level.warning, .clearLevel "app"].map fun o =>
    { site := ⟨"app", 1⟩, operation := o }

/-- A threshold for `app` reaches its logger until it is cleared; one with a blank in front does not. -/
theorem threshold_reaches_logger_padded :
    ((plainStart.setLevel "app" Level.error).getLogger "app").1.effectiveLevel "app" = Level.error
      ∧ ((plainStart.setLevel " app" Level.error).getLogger " app").1.effectiveLevel "app"
        = Level.info
      ∧ Denotes " app" "app"
      ∧ ((plainStart.setLevel "app" Level.error).after clearingCalls).effectiveLevel "app"
        = Level.warning := by
  have hl : Level.error ≠ Level.notset := by decide
  obtain ⟨happ, -, hcleared⟩ := threshold_reaches_logger plainStart "app" Level.error hl
  obtain ⟨hpadded, hdenotes, -⟩ := threshold_reaches_logger plainStart " app" Level.error hl
  have hsame := hcleared _ _ _ _ (course_of_calls _ clearingCalls)
    (course_of_calls _ clearingCalls) rfl (by decide) "app"
  refine ⟨(happ _ _ rfl rfl).trans (if_pos (by decide +kernel)), ?_, hdenotes _ _ rfl, ?_⟩
  · exact (hpadded _ _ rfl rfl).trans (if_neg (by decide +kernel))
  · rw [hsame]
    decide +kernel

end Manager

end Herald
