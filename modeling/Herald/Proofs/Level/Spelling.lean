import Herald.Level.Registry
import Herald.Proofs.Text.Capitals

/-!
# Spellings of a name

A name may be written with blanks around it and with its ASCII letters in either
case. The form in which a registry compares names tells two texts apart exactly if
they are not spellings of each other.
-/

namespace Herald

/-- Two texts that differ in the blanks around them and in the case of ASCII letters only. -/
def Respells (a b : String) : Prop :=
  ∃ x y, Text.Padded x a.toList ∧ Text.Padded y b.toList ∧ x.map Char.toUpper = y.map Char.toUpper

theorem toList_normalizeName (s : String) :
    (normalizeName s).toList = (Text.trimChars s.toList).map Char.toUpper := by
  rw [normalizeName, Text.toList_upperAscii, Text.toList_trim]

/-- **The normal form of a name is what its spellings have in common.** -/
theorem respells_iff {a b : String} : Respells a b ↔ normalizeName a = normalizeName b := by
  rw [← String.toList_inj, toList_normalizeName, toList_normalizeName]
  constructor
  · rintro ⟨x, y, hx, hy, hcase⟩
    rw [hx.trimChars_eq, hy.trimChars_eq, ← Text.trimChars_map_toUpper, hcase,
      Text.trimChars_map_toUpper]
  · intro h
    exact ⟨_, _, Text.padded_trimChars _, Text.padded_trimChars _, h⟩

theorem Respells.refl (s : String) : Respells s s := respells_iff.mpr rfl

theorem Respells.symm {a b : String} (h : Respells a b) : Respells b a :=
  respells_iff.mpr (respells_iff.mp h).symm

instance (a b : String) : Decidable (Respells a b) := decidable_of_iff _ respells_iff.symm

theorem normalizeName_eq_empty_iff {s : String} :
    normalizeName s = "" ↔ Text.isBlankText s = true := by
  rw [← String.toList_inj, toList_normalizeName, String.toList_empty, List.map_eq_nil_iff,
    Text.isBlankText, List.isEmpty_iff]

end Herald
