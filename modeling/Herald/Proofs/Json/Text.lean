import Mathlib.Tactic.SplitIfs
import Herald.Json.Shape

/-!
# Strings read back

`readText` undoes `escape`: each written character is read as itself, whichever of
the three forms it was written in (as it is, behind a backslash, or by its number),
so a quoted text is read as that text and what follows it is left alone.
-/

namespace Herald.Json

/-- The value of a hexadecimal digit is what was written. -/
theorem hexValue?_hexDigit {n : Nat} (h : n < 16) :
    Text.hexValue? (Text.hexDigit n) = some n := by
  revert n
  decide

/-- A control character comes back from its number. -/
theorem hexQuad?_control {n : Nat} (h : n < 32) :
    hexQuad? '0' '0' (Text.hexDigit (n / 16)) (Text.hexDigit (n % 16)) = some n := by
  have hzero : Text.hexValue? '0' = some 0 := by decide
  unfold hexQuad?
  rw [hzero, hexValue?_hexDigit (by omega), hexValue?_hexDigit (by omega)]
  simp only [Option.some.injEq]
  omega

/-- A character that stands for itself. -/
theorem readText_plain {c : Char} (rest : List Char) (hquote : c ≠ '"') (hslash : c ≠ '\\')
    (hcontrol : ¬ c.toNat < 32) : readText (c :: rest) = (readText rest).map (c :: ·) := by
  rw [readText]
  · rw [if_neg hcontrol]
  all_goals simp_all

/-- A character written by its number. -/
theorem readText_control {n : Nat} (rest : List Char) (h : n < 32) :
    readText ('\\' :: 'u' :: '0' :: '0' :: Text.hexDigit (n / 16) :: Text.hexDigit (n % 16) :: rest)
      = (readText rest).map (Char.ofNat n :: ·) := by
  have hlow : isLowSurrogate n = false := by simp [isLowSurrogate]; omega
  have hhigh : isHighSurrogate n = false := by simp [isHighSurrogate]; omega
  rw [readText, hexQuad?_control h]
  simp only [hlow, hhigh, Bool.false_eq_true, if_false]

/-- A character that has an escape of its own. -/
theorem readText_simple {e c : Char} (rest : List Char) (h : simpleEscape? e = some c) :
    readText ('\\' :: e :: rest) = (readText rest).map (c :: ·) := by
  have hu : e ≠ 'u' := by
    rintro rfl
    simp [simpleEscape?] at h
  rw [readText]
  · rw [h]
  all_goals simp [hu]

/-- **One written character is read as itself.** -/
theorem readText_escapeChar (c : Char) (rest : List Char) :
    readText (escapeChar c ++ rest) = (readText rest).map (c :: ·) := by
  unfold escapeChar
  split_ifs with hquote hslash hback htab hline hform hreturn hcontrol
  case neg => exact readText_plain rest hquote hslash hcontrol
  case pos => subst hquote; exact readText_simple rest rfl
  case pos => subst hslash; exact readText_simple rest rfl
  case pos => subst hback; exact readText_simple rest rfl
  case pos => subst htab; exact readText_simple rest rfl
  case pos => subst hline; exact readText_simple rest rfl
  case pos => subst hform; exact readText_simple rest rfl
  case pos => subst hreturn; exact readText_simple rest rfl
  case pos =>
    have h := readText_control rest hcontrol
    rw [Char.ofNat_toNat] at h
    exact h

/-- What stands between quotation marks is read up to the closing one. -/
theorem readText_escape (cs rest : List Char) :
    readText (escape cs ++ '"' :: rest) = .ok (cs, rest) := by
  induction cs with
  | nil => simp [escape, readText]
  | cons c cs ih =>
      have hsplit : escape (c :: cs) ++ '"' :: rest
          = escapeChar c ++ (escape cs ++ '"' :: rest) := by
        simp [escape]
      rw [hsplit, readText_escapeChar, ih]
      rfl

/-- **A quoted text is read as that text.** -/
theorem string_quote (s : String) (rest : List Char) :
    string (quote s ++ rest) = .ok (s, rest) := by
  have hsplit : quote s ++ rest = '"' :: (escape s.toList ++ '"' :: rest) := by
    simp [quote]
  rw [hsplit, string, readText_escape, Parsed.map, String.ofList_toList]

end Herald.Json
