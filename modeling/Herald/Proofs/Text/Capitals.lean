import Mathlib
import Herald.Proofs.Text.Trim

/-!
# Capitals

Capitals put in a second time change nothing. No ASCII letter is blank, so it does not
matter whether a text is trimmed first or put in capitals first.
-/

namespace Herald.Text

/-- A lower-case letter and its capital are both far beyond the digits and signs of ASCII. -/
theorem toNat_of_isLower {c : Char} (h : c.isLower = true) :
    97 ≤ c.toNat ∧ c.toNat ≤ 122 ∧ c.toUpper.toNat = c.toNat - 32 := by
  have hbounds : 97 ≤ c.toNat ∧ c.toNat ≤ 122 := by
    simpa [Char.isLower, UInt32.le_iff_toNat_le] using h
  refine ⟨hbounds.1, hbounds.2, ?_⟩
  rw [Char.toUpper_eq_of_isLower h, Char.toNat_ofNat, if_pos (.inl (by omega))]

theorem isBlank_toUpper (c : Char) : isBlank c.toUpper = isBlank c := by
  by_cases h : c.isLower
  · obtain ⟨hlo, hhi, hupper⟩ := toNat_of_isLower h
    simp only [isBlank, hupper]
    grind
  · rw [Char.toUpper_eq_of_not_isLower h]

theorem trimChars_map_toUpper (cs : List Char) :
    trimChars (cs.map Char.toUpper) = (trimChars cs).map Char.toUpper := by
  have hblank : isBlank ∘ Char.toUpper = isBlank := funext isBlank_toUpper
  unfold trimChars
  rw [List.dropWhile_map, hblank, ← List.map_reverse, List.dropWhile_map, hblank, List.map_reverse]

theorem trim_upperAscii (s : String) : trim (upperAscii s) = upperAscii (trim s) := by
  rw [trim, toList_upperAscii, trimChars_map_toUpper, upperAscii, toList_trim]

theorem upperAscii_upperAscii (s : String) : upperAscii (upperAscii s) = upperAscii s := by
  have htwice : Char.toUpper ∘ Char.toUpper = Char.toUpper :=
    funext Char.toUpper_toUpper_eq_toUpper
  rw [upperAscii, toList_upperAscii, List.map_map, htwice, ← upperAscii]

end Herald.Text
