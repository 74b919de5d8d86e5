import Mathlib
import Herald.Json.Number

/-!
# Numbers in range

A number with an exponent is read as its significand times or over a power of ten,
and it is refused when the product is infinite. Over a power of ten nothing is
ever refused; times one it depends on how large the exponent is. The result here is
that an exponent up to 49 is never refused, whatever the significand.

The argument follows the exponents through the floats. A float that is `Bounded` by
`b` is zero or a mantissa of at most 53 bits times `2^e` with `e ≤ b`. Rounding
raises the exponent by no more than the bits it drops and one, so the product of
floats bounded by `a` and `b` is bounded by `a + b + 54`, which is far from infinite
for the numbers at hand.
-/

namespace Herald.Json

open Float.Model (UnpackedFloat Format totalExponent)
open Float.Model.UnpackedFloat

/-- Zero, or a mantissa of at most 53 bits times a power of two up to `2^bound`. -/
def Bounded (bound : Int) : UnpackedFloat → Bool
  | .zero _ => true
  | .finite _ m e _ => m < 2 ^ 53 && e ≤ bound
  | _ => false

/-- Zero, or any mantissa times a power of two up to `2^bound`. -/
def ExponentLe (bound : Int) : UnpackedFloat → Prop
  | .zero _ => True
  | .finite _ _ e _ => e ≤ bound
  | _ => False

theorem bounded_cases {bound : Int} {u : UnpackedFloat} (h : Bounded bound u = true) :
    (∃ s, u = .zero s) ∨ ∃ s m e hm, u = .finite s m e hm ∧ m < 2 ^ 53 ∧ e ≤ bound := by
  cases u with
  | infinity s => exact absurd h (by simp [Bounded])
  | notANumber => exact absurd h (by simp [Bounded])
  | zero s => exact Or.inl ⟨s, rfl⟩
  | finite s m e hm =>
      simp only [Bounded, Bool.and_eq_true, decide_eq_true_eq] at h
      exact Or.inr ⟨s, m, e, hm, rfl, h⟩

theorem isInf_of_bounded {bound : Int} {u : UnpackedFloat} (h : Bounded bound u = true) :
    u.isInf = false := by
  obtain ⟨s, rfl⟩ | ⟨s, m, e, hm, rfl, -⟩ := bounded_cases h
  · rfl
  · rfl

/-! ## Rounding -/

/-- Shifting a mantissa to the right is a division. -/
theorem mantissa_repeat_shiftRightOne (em : ExtendedMantissa) (k : Nat) :
    (k.repeat ExtendedMantissa.shiftRightOne em).mantissa = em.mantissa / 2 ^ k := by
  induction k with
  | zero => simp [Nat.repeat]
  | succ k ih =>
      rw [Nat.repeat, ExtendedMantissa.shiftRightOne, ih, Nat.div_div_eq_div_mul, Nat.pow_succ]

theorem mantissa_ofMantissaAndAccuracy (m : Nat) (acc : Accuracy) :
    (ExtendedMantissa.ofMantissaAndAccuracy m acc).mantissa = m := by
  cases acc with
  | exact => rfl
  | inexact o => cases o <;> rfl

theorem roundedMantissa_le (em : ExtendedMantissa) : em.roundedMantissa ≤ em.mantissa + 1 := by
  rw [ExtendedMantissa.roundedMantissa]
  generalize em.accuracy = acc
  cases acc with
  | exact => exact Nat.le_succ _
  | inexact o =>
      cases o with
      | lt => exact Nat.le_succ _
      | eq =>
          rw [Accuracy.roundToNearestEven]
          omega
      | gt => exact Nat.le_refl _

theorem log2_lt_of_lt {n width : Nat} (hw : 0 < width) (h : n < 2 ^ width) : n.log2 < width := by
  rcases Nat.eq_zero_or_pos n with hn | hn
  · subst hn
    simpa using hw
  · exact (Nat.log2_lt (Nat.ne_of_gt hn)).mpr h

/-- **Rounding raises an exponent by no more than the bits it drops and one.** -/
theorem exponentLe_roundWithAccuracy {s : Sign} {m width : Nat} {e bound : Int} {acc : Accuracy}
    (hw : 0 < width) (hm : m < 2 ^ width) (he : e ≤ bound) (hwidth : e + width - 52 ≤ bound)
    (hmin : -1074 ≤ bound) :
    ExponentLe bound (roundWithAccuracy Format.binary64 s m e acc) := by
  -- the first shift, by `k` bits, to the exponent that suits the mantissa
  generalize ht : Format.binary64.targetExponent (totalExponent m e) = t
  have htle : t ≤ bound := by
    have hlog := log2_lt_of_lt hw hm
    rw [← ht]
    simp only [Format.targetExponent, totalExponent, Format.mantissaBits, Format.minExponent]
    omega
  generalize hk : (t - e).toNat = k
  generalize hr : ExtendedMantissa.roundedMantissa
    (ExtendedMantissa.ofMantissaAndAccuracy m acc >>> k) = r
  -- what is left of the mantissa is rounded up at most to the next power of two
  have hrle : r ≤ 2 ^ (width - k) := by
    have h := roundedMantissa_le (ExtendedMantissa.ofMantissaAndAccuracy m acc >>> k)
    rw [hr] at h
    have hshift : (ExtendedMantissa.ofMantissaAndAccuracy m acc >>> k).mantissa = m / 2 ^ k :=
      (mantissa_repeat_shiftRightOne _ k).trans (by rw [mantissa_ofMantissaAndAccuracy])
    rw [hshift] at h
    have hdiv : m / 2 ^ k < 2 ^ (width - k) := by
      rw [Nat.div_lt_iff_lt_mul (Nat.pow_pos (by decide)), ← Nat.pow_add]
      exact Nat.lt_of_lt_of_le hm (Nat.pow_le_pow_right (by decide) (by omega))
    omega
  have hlog : r.log2 < width - k + 1 := by
    refine log2_lt_of_lt (by omega) (Nat.lt_of_le_of_lt hrle ?_)
    exact Nat.pow_lt_pow_right (by decide) (by omega)
  -- the second shift, in case the rounding made the mantissa too wide
  rw [roundWithAccuracy]
  simp only [shiftToTargetExponent, shiftToExponent, ht, hk, hr]
  split_ifs with hzero
  · trivial
  · simp only [ExponentLe, Format.targetExponent, totalExponent, Format.mantissaBits,
      Format.minExponent]
    omega

/-- The product of floats is bounded by the sum of their bounds and 54. -/
theorem exponentLe_mul {u v : UnpackedFloat} {a b : Int} (hu : Bounded a u = true)
    (hv : Bounded b v = true) (hmin : -1074 ≤ a + b + 54) :
    ExponentLe (a + b + 54) (mul Format.binary64 u v) := by
  obtain ⟨s, rfl⟩ | ⟨s, m, e, hm, rfl, hmlt, he⟩ := bounded_cases hu
  · obtain ⟨s', rfl⟩ | ⟨s', m', e', hm', rfl, -⟩ := bounded_cases hv
    · trivial
    · trivial
  · obtain ⟨s', rfl⟩ | ⟨s', m', e', hm', rfl, hmlt', he'⟩ := bounded_cases hv
    · trivial
    · have hprod : m * m' < 2 ^ 106 := by
        calc m * m' < 2 ^ 53 * 2 ^ 53 := Nat.mul_lt_mul'' hmlt hmlt'
          _ = 2 ^ 106 := by decide
      exact exponentLe_roundWithAccuracy (by decide) hprod (by omega) (by omega) hmin

theorem shiftLeft_lt {m width : Nat} (k : Nat) (h : m < 2 ^ width) : m <<< k < 2 ^ (width + k) := by
  rw [Nat.shiftLeft_eq, Nat.pow_add]
  exact Nat.mul_lt_mul_of_pos_right h (Nat.pow_pos (by decide))

/-- Rounding an exact number, which first may get a smaller exponent. -/
theorem exponentLe_round {s : Sign} {m width : Nat} {e bound : Int} (hw : 0 < width)
    (hm : m < 2 ^ width) (he : e ≤ bound) (hwidth : e + width - 52 ≤ bound)
    (hmin : -1074 ≤ bound) : ExponentLe bound (round Format.binary64 s m e) := by
  rw [UnpackedFloat.round]
  simp only [decreaseExponent]
  generalize (e - Format.binary64.targetExponent (totalExponent m e)).toNat = k
  exact exponentLe_roundWithAccuracy (by omega) (shiftLeft_lt k hm) (by omega) (by omega) hmin

theorem exponentLe_normalize {mantissa : Int} {width : Nat} {e bound : Int} {zeroSign : Sign}
    (hw : 0 < width) (hm : mantissa.natAbs < 2 ^ width) (he : e ≤ bound)
    (hwidth : e + width - 52 ≤ bound) (hmin : -1074 ≤ bound) :
    ExponentLe bound (normalize Format.binary64 mantissa e zeroSign) := by
  rw [UnpackedFloat.normalize]
  split
  case h_1 => exact exponentLe_round hw (by omega) he hwidth hmin
  case h_2 => trivial
  case h_3 => exact exponentLe_round hw (by omega) he hwidth hmin

/-- A whole number of 64 bits is rounded to at most `2^53 · 2^12`. -/
theorem exponentLe_ofUInt64 (n : UInt64) : ExponentLe 12 (ofUInt64 Format.binary64 n) := by
  have hn : (n.toNat : Int).natAbs < 2 ^ 64 := n.toNat_lt
  rw [ofUInt64, ofNat, ofInt]
  exact exponentLe_normalize (by decide) hn (by decide) (by decide) (by decide)

/-! ## Packing -/

theorem exponentBias_binary64 : Format.binary64.exponentBias = 1023 := by decide

/-- What the exponent bits of a packed float say. -/
theorem bounded_unpack {bits : BitVec Format.binary64.numBits} {bound : Int}
    (hfield : ((unpackExponent bits).toNat : Int) ≤ bound + 1075)
    (hfinite : (unpackExponent bits).toNat < 2047) (hmin : -1074 ≤ bound) :
    Bounded bound (unpack Format.binary64 bits) = true := by
  have hones : unpackExponent bits ≠ -1#_ := by
    intro h
    rw [h] at hfinite
    exact absurd hfinite (by decide)
  rw [unpack]
  simp only [hones, if_false]
  have hmantissa : (unpackMantissa bits).toNat < 2 ^ 52 := (unpackMantissa bits).isLt
  have hnormal : (1#1 ++ unpackMantissa bits).toNat < 2 ^ 53 :=
    (1#1 ++ unpackMantissa bits).isLt
  split_ifs with hexp hmant
  · rfl
  · have hzero : (unpackExponent bits).toNat = 0 := congrArg BitVec.toNat hexp
    refine Bool.and_eq_true_iff.mpr ⟨decide_eq_true (by omega), decide_eq_true ?_⟩
    rw [hzero, exponentBias_binary64]
    omega
  · refine Bool.and_eq_true_iff.mpr ⟨decide_eq_true hnormal, decide_eq_true ?_⟩
    rw [exponentBias_binary64]
    omega

/-- A float whose exponent fits comes back from its bits as bounded as it was. -/
theorem bounded_unpack_pack {u : UnpackedFloat} {bound : Int} (h : ExponentLe bound u)
    (hmin : -1074 ≤ bound) (hmax : bound ≤ 971) :
    Bounded bound (UnpackedFloat.unpack Format.binary64 (UnpackedFloat.pack Format.binary64 u))
      = true := by
  cases u with
  | infinity s => exact absurd h id
  | notANumber => exact absurd h id
  | zero s =>
      have hfield : (unpackExponent (UnpackedFloat.pack Format.binary64 (.zero s))).toNat = 0 :=
        congrArg BitVec.toNat unpackExponent_packComponents
      exact bounded_unpack (by omega) (by omega) hmin
  | finite s m e hm =>
      have he : e ≤ bound := h
      have hbits : (e + ((Format.binary64.exponentBias : Nat) : Int) + ((52 : Nat) : Int)).toNat
          = (e + 1075).toNat := by
        rw [exponentBias_binary64]
        omega
      have hfield : (unpackExponent (UnpackedFloat.pack Format.binary64 (.finite s m e hm))).toNat
          ≤ (e + 1075).toNat := by
        simp only [UnpackedFloat.pack]
        rw [hbits, if_neg (by omega)]
        split_ifs with hnormal
        · rw [unpackExponent_packComponents, BitVec.toNat_ofNat]
          exact Nat.mod_le _ _
        · rw [unpackExponent_packComponents]
          exact Nat.zero_le _
      exact bounded_unpack (by omega) (by omega) hmin

/-! ## Scaling -/

/-- The powers of ten up to `10^49`, which are below `2^163`. -/
theorem bounded_powerOfTen : ∀ e < 50, Bounded 110 (powerOfTen e).toModel.unpack = true := by
  decide +kernel

/-- A significand is a bounded float. -/
theorem bounded_toFloat (n : UInt64) : Bounded 12 n.toFloat.toModel.unpack = true :=
  bounded_unpack_pack (exponentLe_ofUInt64 n) (by decide) (by decide)

/-- **A significand times a power of ten up to `10^49` is not infinite.** -/
theorem isInf_mul_powerOfTen (n : UInt64) {e : Nat} (he : e < 50) :
    (n.toFloat * powerOfTen e).isInf = false :=
  isInf_of_bounded (bounded_unpack_pack
    (exponentLe_mul (bounded_toFloat n) (bounded_powerOfTen e he) (by decide))
    (by decide) (by decide))

/-- **An exponent below 50 is never refused.** -/
theorem scale_of_lt (significand : Nat) {exponent : Int} (h : exponent < 50) :
    ∃ x, scale significand exponent = .ok x := by
  cases exponent with
  | ofNat e =>
      have he : e < 50 := Int.ofNat_lt.mp h
      have hfinite := isInf_mul_powerOfTen (UInt64.ofNat significand) he
      refine ⟨(UInt64.ofNat significand).toFloat * powerOfTen e, ?_⟩
      rw [scale, if_pos (by omega)]
      dsimp only
      rw [hfinite, if_neg (by decide)]
  | negSucc e => exact ⟨_, rfl⟩

/-- A number with such an exponent is read, whatever follows it. -/
theorem finishReal_of_lt (minus : Bool) (significand : Nat) {exponent : Int} (h : exponent < 50) :
    ∃ n, ∀ rest, finishReal minus significand exponent rest = .ok (n, rest) := by
  obtain ⟨x, hx⟩ := scale_of_lt significand h
  refine ⟨signed minus x, fun rest => ?_⟩
  rw [finishReal, hx]

end Herald.Json
