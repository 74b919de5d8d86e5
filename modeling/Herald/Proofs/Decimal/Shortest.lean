import Mathlib.Algebra.Order.Field.Power
import Mathlib.Data.Rat.Floor
import Mathlib.Tactic.Linarith
import Mathlib.Tactic.NormNum
import Mathlib.Tactic.Positivity
import Mathlib.Tactic.Ring
import Herald.Decimal.Shortest

/-!
# Seventeen digits are enough

The search for the shortest decimal of a magnitude ends on a grid: among the grids
from one digit to seventeen there is one with a decimal that reads back as the
magnitude. On the last of them the distance from the magnitude to the next decimal
is at most half a step, and a step is less than half of what rounds to it.

So the decimal that is written has digits, it is never zero, and it is at most
twice the magnitude. That is what a reader of written numbers needs: it bounds the
exponent, and it keeps zeros from being written in front.
-/

namespace Herald.Decimal

/-- The magnitude as a rational number. -/
def Magnitude.value (m : Magnitude) : ℚ := m.mantissa * 2 ^ m.exponent

/-- The decimal as a rational number. -/
def Scaled.value (d : Scaled) : ℚ := d.digits * 10 ^ d.exponent

/-- A magnitude as floats have it. -/
structure Magnitude.Regular (m : Magnitude) : Prop where
  positive : 0 < m.mantissa
  bounded : m.mantissa < 2 ^ 53
  /-- Only at a power of two is the next float below nearer than the one above. -/
  narrow : m.narrowBelow = true → m.mantissa ≤ 2 ^ 52

/-! ## Digits -/

theorem digitCount_pos (n : Nat) : 0 < digitCount n := by
  rw [digitCount, Nat.toString_eq_repr, ← String.length_toList, Nat.toList_repr]
  exact Nat.length_toDigits_pos

theorem lt_pow_digitCount (n : Nat) : n < 10 ^ digitCount n := by
  have h := digitCount_pos n
  rw [← Nat.length_toDigits_le_iff (by decide) h, digitCount, Nat.toString_eq_repr,
    ← String.length_toList, Nat.toList_repr]

theorem pow_digitCount_le {n : Nat} (hn : 0 < n) : 10 ^ (digitCount n - 1) ≤ n := by
  rcases Nat.eq_zero_or_pos (digitCount n - 1) with h | h
  · rw [h]
    exact hn
  · by_contra hlt
    rw [Nat.not_le, ← Nat.length_toDigits_le_iff (by decide) h] at hlt
    rw [digitCount, Nat.toString_eq_repr, ← String.length_toList, Nat.toList_repr] at hlt h
    omega

/-! ## Fractions -/

theorem ratio_eq (n : Nat) (e k : Int) :
    ratio n e k
      = ⟨n * 2 ^ e.toNat * 10 ^ (-k).toNat, 2 ^ (-e).toNat * 10 ^ k.toNat⟩ := by
  rw [ratio, Nat.shiftLeft_eq, Nat.one_shiftLeft, Nat.pow_eq, Nat.pow_eq]

theorem den_pos (n : Nat) (e k : Int) : 0 < (ratio n e k).den := by
  rw [ratio_eq]
  exact Nat.mul_pos (Nat.pow_pos (by decide)) (Nat.pow_pos (by decide))

/-- The fraction is the number that it stands for. -/
theorem ratio_value (n : Nat) (e k : Int) :
    ((ratio n e k).num : ℚ) = n * 2 ^ e * 10 ^ (-k) * (ratio n e k).den := by
  have hsplit : ∀ (b : ℚ) (i : Int), b ≠ 0 → b ^ i * b ^ (-i).toNat = b ^ i.toNat := by
    intro b i hb
    rw [← zpow_natCast, ← zpow_natCast, ← zpow_add₀ hb]
    congr 1
    omega
  have htwo := hsplit 2 e (by norm_num)
  have hten := hsplit 10 (-k) (by norm_num)
  rw [neg_neg] at hten
  simp only [ratio_eq, Nat.cast_mul, Nat.cast_pow, Nat.cast_ofNat]
  rw [← htwo, ← hten]
  ring

/-- The leading exponent is that of a power of ten below the magnitude. -/
theorem pow_leadingExponent_le {m : Magnitude} (hm : 0 < m.mantissa) :
    (10 : ℚ) ^ leadingExponent m ≤ m.value := by
  have hden := den_pos m.mantissa m.exponent 0
  have hvalue := ratio_value m.mantissa m.exponent 0
  generalize hr : ratio m.mantissa m.exponent 0 = r at hden hvalue
  rw [neg_zero, zpow_zero, mul_one] at hvalue
  have hdenQ : (0 : ℚ) < r.den := by exact_mod_cast hden
  have hnumQ : (0 : ℚ) < r.num := by
    rw [hvalue]
    positivity
  have hnum : 0 < r.num := by exact_mod_cast hnumQ
  -- both sides times the denominator
  have hgoal : ∀ L : Int, (10 : ℚ) ^ L * r.den ≤ r.num → (10 : ℚ) ^ L ≤ m.value := by
    intro L h
    rw [hvalue] at h
    exact le_of_mul_le_mul_right h hdenQ
  rw [leadingExponent, hr]
  dsimp only
  split
  case isTrue hle =>
    apply hgoal
    have hq : 0 < r.num / r.den := Nat.div_pos hle hden
    have hpow := pow_digitCount_le hq
    have hexp : ((digitCount (r.num / r.den) : Int) - 1)
        = ((digitCount (r.num / r.den) - 1 : Nat) : Int) := by
      have := digitCount_pos (r.num / r.den)
      omega
    rw [hexp, zpow_natCast]
    have hmul : 10 ^ (digitCount (r.num / r.den) - 1) * r.den ≤ r.num :=
      Nat.le_trans (Nat.mul_le_mul_right _ hpow) (Nat.div_mul_le_self _ _)
    exact_mod_cast hmul
  case isFalse hlt =>
    have hq : 0 < r.den / r.num := Nat.div_pos (by omega) hnum
    have hup := digitCount_pos (r.den / r.num)
    have hbelow := lt_pow_digitCount (r.den / r.num)
    generalize digitCount (r.den / r.num) = up at hup hbelow
    have hgoal' : ∀ n : Nat, r.den ≤ r.num * 10 ^ n → (10 : ℚ) ^ (-(n : Int)) ≤ m.value := by
      intro n h
      apply hgoal
      have hQ : (r.den : ℚ) ≤ r.num * 10 ^ n := by exact_mod_cast h
      rw [zpow_neg, zpow_natCast, inv_mul_le_iff₀ (by positivity), mul_comm]
      exact hQ
    split
    case isTrue hsmall =>
      have := hgoal' (up - 1) hsmall
      rwa [Int.natCast_sub (by omega)] at this
    case isFalse _ =>
      apply hgoal'
      rw [Nat.div_lt_iff_lt_mul hnum] at hbelow
      rw [Nat.mul_comm]
      exact Nat.le_of_lt hbelow

/-! ## Grids -/

/-- Four quarters of a magnitude on a grid are the magnitude there. -/
theorem quarters_value (m : Magnitude) (k : Int) :
    ((ratio (4 * m.mantissa) (m.exponent - 2) k).num : ℚ)
      = m.value * 10 ^ (-k) * (ratio (4 * m.mantissa) (m.exponent - 2) k).den := by
  rw [ratio_value, Magnitude.value, zpow_sub₀ (by norm_num)]
  push_cast
  ring

/-- A grid that is not coarser than the leading digit has a step below the magnitude. -/
theorem pow_mul_den_le_num {m : Magnitude} {k : Int} (hm : 0 < m.mantissa) (n : Nat)
    (hk : k + n ≤ leadingExponent m) :
    10 ^ n * (ratio (4 * m.mantissa) (m.exponent - 2) k).den
      ≤ (ratio (4 * m.mantissa) (m.exponent - 2) k).num := by
  have hvalue := quarters_value m k
  generalize ratio (4 * m.mantissa) (m.exponent - 2) k = r at hvalue ⊢
  have hpow : (10 : ℚ) ^ n ≤ m.value * 10 ^ (-k) := by
    have hsplit : (10 : ℚ) ^ n = 10 ^ ((n : Int) + k) * 10 ^ (-k) := by
      rw [← zpow_natCast, ← zpow_add₀ (by norm_num)]
      congr 1
      ring
    rw [hsplit]
    refine mul_le_mul_of_nonneg_right (le_trans ?_ (pow_leadingExponent_le hm)) (by positivity)
    exact zpow_le_zpow_right₀ (by norm_num) (by omega)
  have hQ : (10 : ℚ) ^ n * r.den ≤ r.num := by
    rw [hvalue]
    exact mul_le_mul_of_nonneg_right hpow (by positivity)
  exact_mod_cast hQ

/-- What is found on a grid is the last decimal up to the magnitude or the one after it. -/
theorem onGrid?_cases {m : Magnitude} {k : Int} {d : Nat} (h : onGrid? m k = some d) :
    let value := ratio (4 * m.mantissa) (m.exponent - 2) k
    d = value.num / value.den ∨ d = value.num / value.den + 1 := by
  intro value
  rw [onGrid?] at h
  dsimp only at h
  split at h
  · split_ifs at h with h₁ h₂ h₃
    all_goals
      rw [Option.some.injEq] at h
      first
        | exact Or.inl h.symm
        | exact Or.inr h.symm
  · exact Or.inl (Option.some.inj h).symm
  · exact Or.inr (Option.some.inj h).symm
  · exact absurd h (by simp)

theorem ratio_num (n : Nat) (e k : Int) : (ratio n e k).num = n * (ratio 1 e k).num := by
  simp only [ratio_eq, Nat.one_mul, Nat.mul_assoc]

/-- What is strictly inside the interval is inside it. -/
theorem inside_of_lt {mantissa low high x : Nat} (hlow : low < x) (hhigh : x < high) :
    (if mantissa % 2 = 0 then decide (low ≤ x) && decide (x ≤ high)
      else decide (low < x) && decide (x < high)) = true := by
  split
  · rw [Bool.and_eq_true, decide_eq_true_eq, decide_eq_true_eq]
    exact ⟨Nat.le_of_lt hlow, Nat.le_of_lt hhigh⟩
  · rw [Bool.and_eq_true, decide_eq_true_eq, decide_eq_true_eq]
    exact ⟨hlow, hhigh⟩

/-- **On the grid of seventeen digits every magnitude has a decimal.** -/
theorem exists_onGrid? {m : Magnitude} (h : m.Regular) :
    ∃ d, onGrid? m (leadingExponent m - 16) = some d := by
  generalize hk : leadingExponent m - 16 = k
  have hstep := pow_mul_den_le_num h.positive 16 (show k + (16 : Nat) ≤ leadingExponent m by omega)
  have hden := den_pos (4 * m.mantissa) (m.exponent - 2) k
  have hpositive := h.positive
  have hbounded := h.bounded
  cases hfound : onGrid? m k with
  | some d => exact ⟨d, rfl⟩
  | none =>
      exfalso
      rw [onGrid?] at hfound
      dsimp only at hfound
      rw [ratio_num (4 * m.mantissa), ratio_num (4 * m.mantissa - _),
        ratio_num (4 * m.mantissa + 2)] at hfound
      rw [ratio_num (4 * m.mantissa)] at hstep
      generalize (ratio 1 (m.exponent - 2) k).num = unit at hfound hstep
      generalize (ratio (4 * m.mantissa) (m.exponent - 2) k).den = den at hfound hstep hden
      generalize hslack : (if m.narrowBelow = true then 1 else 2) = slack at hfound
      -- half a step of the grid is less than what rounds to the magnitude
      have hwide : den < 2 * (slack * unit) := by
        have hmantissa : m.mantissa ≤ slack * 2 ^ 52 := by
          rw [← hslack]
          split
          case isTrue hnarrow => exact h.narrow hnarrow
          case isFalse _ => omega
        have hproduct : 4 * m.mantissa * unit ≤ 2 ^ 54 * (slack * unit) := by
          calc 4 * m.mantissa * unit ≤ 4 * (slack * 2 ^ 52) * unit :=
                Nat.mul_le_mul_right _ (Nat.mul_le_mul_left _ hmantissa)
            _ = 2 ^ 54 * (slack * unit) := by ring
        omega
      have hslackle : slack ≤ 2 := by
        rw [← hslack]
        split <;> omega
      have hunit : slack * unit ≤ 2 * unit := Nat.mul_le_mul_right _ hslackle
      rw [Nat.sub_mul, Nat.add_mul] at hfound
      generalize 4 * m.mantissa * unit = value at hfound hstep
      -- the decimals on both sides of the magnitude
      have hdown : value / den * den ≤ value := Nat.div_mul_le_self value den
      have hup : value < value / den * den + den := Nat.lt_div_mul_add hden
      rw [Nat.add_mul, Nat.one_mul] at hfound
      generalize hc : value / den * den = c at hfound hdown hup
      split at hfound
      case h_1 => split_ifs at hfound
      case h_2 => exact absurd hfound (by simp)
      case h_3 => exact absurd hfound (by simp)
      case h_4 hoff hoff' =>
        by_cases hnear : 2 * (value - c) ≤ den
        · rw [inside_of_lt (by omega) (by omega)] at hoff
          exact absurd hoff (by decide)
        · rw [inside_of_lt (by omega) (by omega)] at hoff'
          exact absurd hoff' (by decide)

/-! ## The search -/

/-- The search ends on a grid that has a decimal, and not on a coarser one than it began with. -/
theorem searchFrom_spec {m : Magnitude} (lead : Int) (more n : Nat)
    (h : ∃ d, onGrid? m (lead - (more + n : Nat) + 1) = some d) :
    ∃ d k, searchFrom m lead more n = ⟨d, k⟩ ∧ onGrid? m k = some d ∧ k ≤ lead - n + 1 := by
  induction more generalizing n with
  | zero =>
      obtain ⟨d, hd⟩ := h
      rw [Nat.zero_add] at hd
      refine ⟨d, lead - n + 1, ?_, hd, Int.le_refl _⟩
      rw [searchFrom, hd]
      rfl
  | succ more ih =>
      rw [searchFrom]
      split
      case h_1 d hd => exact ⟨d, _, rfl, hd, Int.le_refl _⟩
      case h_2 _ =>
        obtain ⟨d, k, hs, hd, hk⟩ := ih (n + 1) (by rwa [Nat.add_assoc, Nat.add_comm 1 n] at h)
        exact ⟨d, k, hs, hd, by omega⟩

/-- Dropping zeros changes neither the value nor that there are digits. -/
theorem dropZeros_spec (bound : Nat) {d : Scaled} (hd : 0 < d.digits) :
    (dropZeros bound d).value = d.value ∧ 0 < (dropZeros bound d).digits := by
  induction bound generalizing d with
  | zero => exact ⟨rfl, hd⟩
  | succ bound ih =>
      rw [dropZeros]
      split
      case isTrue h =>
        have hpos : 0 < d.digits / 10 := by omega
        obtain ⟨hv, hp⟩ := ih (d := ⟨d.digits / 10, d.exponent + 1⟩) hpos
        refine ⟨?_, hp⟩
        have hten : (d.digits : ℚ) = 10 * (d.digits / 10 : Nat) := by
          have : d.digits = 10 * (d.digits / 10) := by omega
          exact_mod_cast this
        rw [hv, Scaled.value, Scaled.value, hten, zpow_add₀ (by norm_num)]
        ring
      case isFalse _ => exact ⟨rfl, hd⟩

/-- **The shortest decimal is positive and at most twice the magnitude.** -/
theorem shortest_spec {m : Magnitude} (h : m.Regular) :
    0 < (shortest m).digits ∧ (shortest m).value ≤ 2 * m.value := by
  obtain ⟨d, k, hs, hd, hk⟩ := searchFrom_spec (leadingExponent m) 16 1 (by
    obtain ⟨d, hd⟩ := exists_onGrid? h
    exact ⟨d, by rw [← hd]; congr 1; omega⟩)
  have hden := den_pos (4 * m.mantissa) (m.exponent - 2) k
  have hstep := pow_mul_den_le_num h.positive 0 (show k + (0 : Nat) ≤ leadingExponent m by omega)
  have hvalue := quarters_value m k
  have hcases := onGrid?_cases hd
  dsimp only at hcases
  generalize ratio (4 * m.mantissa) (m.exponent - 2) k = r at hden hstep hvalue hcases
  rw [Nat.pow_zero, Nat.one_mul] at hstep
  -- the step fits into the magnitude, so one more step at most doubles it
  have hone : 0 < r.num / r.den := Nat.div_pos hstep hden
  have hdouble : d * r.den ≤ 2 * r.num := by
    have hfloor := Nat.div_mul_le_self r.num r.den
    rcases hcases with h | h
    · rw [h]
      omega
    · rw [h, Nat.add_mul]
      omega
  have hpos : 0 < d := by omega
  obtain ⟨hv, hp⟩ := dropZeros_spec 20 (d := ⟨d, k⟩) hpos
  rw [shortest, hs]
  refine ⟨hp, ?_⟩
  rw [hv, Scaled.value]
  have hdenQ : (0 : ℚ) < r.den := by exact_mod_cast hden
  have hdoubleQ : (d : ℚ) * r.den ≤ 2 * r.num := by exact_mod_cast hdouble
  rw [hvalue] at hdoubleQ
  have hscaled : (d : ℚ) ≤ 2 * m.value * 10 ^ (-k) := by
    refine le_of_mul_le_mul_right ?_ hdenQ
    calc (d : ℚ) * r.den ≤ 2 * (m.value * 10 ^ (-k) * r.den) := hdoubleQ
      _ = 2 * m.value * 10 ^ (-k) * r.den := by ring
  calc (d : ℚ) * 10 ^ k ≤ 2 * m.value * 10 ^ (-k) * 10 ^ k :=
        mul_le_mul_of_nonneg_right hscaled (by positivity)
    _ = 2 * m.value := by rw [mul_assoc, ← zpow_add₀ (by norm_num)]; simp

/-! ## Floats -/

/-- The magnitude of a float that is not zero. -/
theorem regular_magnitude {x : Float} (h : (magnitude x).mantissa ≠ 0) : (magnitude x).Regular := by
  have hfraction : fractionBits x < 2 ^ 52 := Nat.mod_lt _ (by decide)
  unfold magnitude at h ⊢
  dsimp only at h ⊢
  split_ifs at h ⊢ with hexp
  · have hbounded : fractionBits x < 2 ^ 53 := by omega
    exact ⟨Nat.pos_of_ne_zero h, hbounded, fun hn => absurd hn (by simp)⟩
  · have hpositive : 0 < 2 ^ 52 + fractionBits x := by omega
    have hbounded : 2 ^ 52 + fractionBits x < 2 ^ 53 := by omega
    refine ⟨hpositive, hbounded, fun hn => ?_⟩
    have hleast : fractionBits x = 0 := (of_decide_eq_true hn).1
    have hpower : 2 ^ 52 + fractionBits x ≤ 2 ^ 52 := by omega
    exact hpower

/-- The exponent bits bound the magnitude. -/
theorem value_magnitude_lt {x : Float} (bits : Nat) (h : exponentBits x ≤ 1075 + bits) :
    (magnitude x).value < 2 ^ (53 + bits) := by
  have hfraction : fractionBits x < 2 ^ 52 := Nat.mod_lt _ (by decide)
  have hmantissa : (magnitude x).mantissa < 2 ^ 53 := by
    unfold magnitude
    dsimp only
    split_ifs <;> dsimp only <;> omega
  have hexponent : (magnitude x).exponent ≤ bits := by
    unfold magnitude
    dsimp only
    split_ifs <;> dsimp only <;> omega
  have hmantissaQ : ((magnitude x).mantissa : ℚ) < 2 ^ 53 := by exact_mod_cast hmantissa
  have hpow : (2 : ℚ) ^ (magnitude x).exponent ≤ 2 ^ bits := by
    rw [← zpow_natCast]
    exact zpow_le_zpow_right₀ (by norm_num) hexponent
  calc (magnitude x).value < 2 ^ 53 * 2 ^ (magnitude x).exponent :=
        mul_lt_mul_of_pos_right hmantissaQ (by positivity)
    _ ≤ 2 ^ 53 * 2 ^ bits := mul_le_mul_of_nonneg_left hpow (by positivity)
    _ = 2 ^ (53 + bits) := by rw [← pow_add]

/-- The first digit of a decimal stands for no more than the decimal. -/
theorem pow_lead_le {d : Scaled} (hd : 0 < d.digits) :
    (10 : ℚ) ^ (d.exponent + (digitCount d.digits : Int) - 1) ≤ d.value := by
  have hcount := digitCount_pos d.digits
  have hexp : d.exponent + (digitCount d.digits : Int) - 1
      = ((digitCount d.digits - 1 : Nat) : Int) + d.exponent := by omega
  have hdigits : (10 : ℚ) ^ (digitCount d.digits - 1) ≤ d.digits := by
    exact_mod_cast pow_digitCount_le hd
  rw [hexp, zpow_add₀ (by norm_num), zpow_natCast, Scaled.value]
  exact mul_le_mul_of_nonneg_right hdigits (by positivity)

/-- **The leading exponent of what is written for a float below `2^65`.** -/
theorem lead_shortest_lt {x : Float} (hzero : (magnitude x).mantissa ≠ 0)
    (h : exponentBits x ≤ 1087) :
    (shortest (magnitude x)).exponent + (digitCount (shortest (magnitude x)).digits : Int) - 1
      < 20 := by
  obtain ⟨hpos, hdouble⟩ := shortest_spec (regular_magnitude hzero)
  have hvalue := value_magnitude_lt 12 h
  have hlead := pow_lead_le hpos
  by_contra hlarge
  have hbig : (10 : ℚ) ^ (20 : Int) ≤ 10 ^ ((shortest (magnitude x)).exponent
      + (digitCount (shortest (magnitude x)).digits : Int) - 1) :=
    zpow_le_zpow_right₀ (by norm_num) (by omega)
  norm_num at hbig hvalue
  linarith

end Herald.Decimal
