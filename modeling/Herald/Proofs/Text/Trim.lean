import Mathlib.Data.List.DropRight
import Herald.Text.Blank

/-!
# Trimmed texts

Trimming a second time changes nothing. What is cut off is blank, and nothing that is
blank stays: two texts with blanks around the same core are the same once trimmed.
-/

namespace Herald.Text

theorem trimChars_eq (cs : List Char) :
    trimChars cs = (cs.dropWhile isBlank).rdropWhile isBlank := rfl

theorem trimChars_trimChars (cs : List Char) : trimChars (trimChars cs) = trimChars cs := by
  rw [trimChars_eq, trimChars_eq]
  have hback := List.rdropWhile_prefix isBlank (cs.dropWhile isBlank)
  -- what is cut off at the end leaves the first character, which is no blank
  have hfront : ((cs.dropWhile isBlank).rdropWhile isBlank).dropWhile isBlank
      = (cs.dropWhile isBlank).rdropWhile isBlank := by
    rw [List.dropWhile_eq_self_iff]
    intro hpos hblank
    rw [hback.getElem hpos] at hblank
    exact List.dropWhile_get_zero_not isBlank cs (Nat.lt_of_lt_of_le hpos hback.length_le) hblank
  rw [hfront, List.rdropWhile_idempotent]

/-- A text with blanks around it. -/
def Padded (core text : List Char) : Prop :=
  ∃ front back, text = front ++ core ++ back
    ∧ (∀ c ∈ front, isBlank c = true) ∧ ∀ c ∈ back, isBlank c = true

theorem Padded.refl (cs : List Char) : Padded cs cs := ⟨[], [], by simp, by simp, by simp⟩

/-- What trimming cuts off is blank. -/
theorem padded_trimChars (cs : List Char) : Padded (trimChars cs) cs := by
  refine ⟨cs.takeWhile isBlank, ((cs.dropWhile isBlank).reverse.takeWhile isBlank).reverse, ?_,
    fun c hc => List.mem_takeWhile_imp hc, fun c hc => ?_⟩
  · rw [trimChars, List.append_assoc, ← List.reverse_append, List.takeWhile_append_dropWhile,
      List.reverse_reverse, List.takeWhile_append_dropWhile]
  · exact List.mem_takeWhile_imp (List.mem_reverse.mp hc)

/-- Blanks around a text are trimmed away. -/
theorem Padded.trimChars_eq {core text : List Char} (h : Padded core text) :
    trimChars text = trimChars core := by
  obtain ⟨front, back, rfl, hfront, hback⟩ := h
  have hrear : ∀ xs : List Char,
      (xs ++ back).reverse.dropWhile isBlank = xs.reverse.dropWhile isBlank := by
    intro xs
    rw [List.reverse_append]
    exact List.dropWhile_append_of_pos fun c hc => hback c (List.mem_reverse.mp hc)
  unfold trimChars
  rw [List.append_assoc, List.dropWhile_append_of_pos hfront, List.dropWhile_append]
  split
  case isTrue hempty =>
    -- there is nothing but blanks in between
    rw [List.isEmpty_iff.mp hempty, List.dropWhile_eq_nil_iff.mpr hback]
  case isFalse => rw [hrear]

/-- Neither end of a text is blank. -/
def Bare (cs : List Char) : Prop :=
  cs.head?.any isBlank = false ∧ cs.getLast?.any isBlank = false

instance (cs : List Char) : Decidable (Bare cs) := inferInstanceAs (Decidable (_ ∧ _))

theorem bare_iff {cs : List Char} :
    Bare cs ↔ cs.dropWhile isBlank = cs ∧ cs.rdropWhile isBlank = cs := by
  rw [List.dropWhile_eq_self_iff, List.rdropWhile_eq_self_iff, Bare]
  cases cs with
  | nil => simp
  | cons c cs => simp [List.getLast?_eq_some_getLast (List.cons_ne_nil c cs)]

theorem trimChars_eq_self_iff {cs : List Char} : trimChars cs = cs ↔ Bare cs := by
  rw [trimChars_eq, bare_iff]
  constructor
  · intro h
    -- if nothing is cut off in all, nothing is cut off in front
    have hlen := (List.rdropWhile_prefix isBlank (cs.dropWhile isBlank)).length_le
    have hsuffix := List.dropWhile_suffix (l := cs) isBlank
    rw [h] at hlen
    have hfront := hsuffix.eq_of_length (Nat.le_antisymm hsuffix.length_le hlen)
    rw [hfront] at h
    exact ⟨hfront, h⟩
  · rintro ⟨hfront, hback⟩
    rw [hfront, hback]

theorem length_trimChars_le (cs : List Char) : (trimChars cs).length ≤ cs.length :=
  (List.rdropWhile_prefix isBlank _).length_le.trans (List.dropWhile_suffix isBlank).length_le

/-- **Trimming leaves what stands between the blanks.** -/
theorem trimChars_eq_iff {core text : List Char} :
    trimChars text = core ↔ Padded core text ∧ Bare core := by
  constructor
  · rintro rfl
    exact ⟨padded_trimChars text, trimChars_eq_self_iff.mp (trimChars_trimChars text)⟩
  · rintro ⟨hpadded, hbare⟩
    rw [hpadded.trimChars_eq, trimChars_eq_self_iff.mpr hbare]

theorem trim_eq_iff {s core : String} :
    trim s = core ↔ Padded core.toList s.toList ∧ Bare core.toList := by
  rw [← trimChars_eq_iff, ← String.toList_inj, toList_trim]

theorem isBlankText_iff_trim {s : String} : isBlankText s = true ↔ trim s = "" := by
  rw [isBlankText, List.isEmpty_iff, ← String.toList_inj, toList_trim, String.toList_empty]

theorem isBlankText_iff {s : String} :
    isBlankText s = true ↔ ∀ c ∈ s.toList, isBlank c = true := by
  rw [isBlankText, List.isEmpty_iff, trimChars_eq_iff]
  constructor
  · rintro ⟨⟨front, back, heq, hfront, hback⟩, -⟩ c hc
    rw [heq, List.append_nil, List.mem_append] at hc
    exact hc.elim (hfront c) (hback c)
  · intro h
    exact ⟨⟨s.toList, [], by simp, h, by simp⟩, by simp [Bare]⟩

theorem not_isBlankText_iff {s : String} :
    ¬isBlankText s = true ↔ ∃ c ∈ s.toList, isBlank c = false := by
  simp [isBlankText_iff]

theorem trim_trim (s : String) : trim (trim s) = trim s := by
  rw [trim, toList_trim, trimChars_trimChars, ← trim]

end Herald.Text
