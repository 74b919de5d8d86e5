import Herald.Proofs.Json.Scale
import Herald.Record.Time

/-!
# Time stamps are finite

The seconds of a time since the epoch are a 64-bit number and the nanoseconds a
32-bit one, so neither they nor their sum come near the range where floats end. The
bounds are those of `Bounded` and `ExponentLe`: a quotient by a known float is
bounded by the difference of the exponents and one, and a sum by two more than its
summands.
-/

namespace Herald.Json

open Float.Model (UnpackedFloat Format totalExponent)
open Float.Model.UnpackedFloat

theorem isFinite_of_bounded {bound : Int} {u : UnpackedFloat} (h : Bounded bound u = true) :
    u.isFinite = true := by
  obtain ⟨s, rfl⟩ | ⟨s, m, e, hm, rfl, -⟩ := bounded_cases h
  · rfl
  · rfl

theorem bounded_mono {a b : Int} {u : UnpackedFloat} (h : Bounded a u = true) (hab : a ≤ b) :
    Bounded b u = true := by
  obtain ⟨s, rfl⟩ | ⟨s, m, e, hm, rfl, hmlt, he⟩ := bounded_cases h
  · rfl
  · exact Bool.and_eq_true_iff.mpr ⟨decide_eq_true hmlt, decide_eq_true (Int.le_trans he hab)⟩

theorem exponentLe_of_bounded {bound : Int} {u : UnpackedFloat} (h : Bounded bound u = true) :
    ExponentLe bound u := by
  obtain ⟨s, rfl⟩ | ⟨s, m, e, hm, rfl, -, he⟩ := bounded_cases h
  · trivial
  · exact he

/-! ## Sums and quotients -/

theorem natAbs_apply (s : Sign) (m : Nat) : (s.apply m).natAbs = m := by
  cases s <;> simp [Sign.apply]

theorem natAbs_sum_lt {m m' width : Nat} (s s' : Sign) (hm : m < 2 ^ width) (hm' : m' < 2 ^ width) :
    (s.apply m + s'.apply m').natAbs < 2 ^ (width + 1) := by
  have hle := Int.natAbs_add_le (s.apply m) (s'.apply m')
  rw [natAbs_apply, natAbs_apply] at hle
  rw [Nat.pow_succ]
  omega

/-- The sum of floats is bounded by their bound and two. -/
theorem exponentLe_add {u v : UnpackedFloat} {c : Int} (hu : Bounded c u = true)
    (hv : Bounded c v = true) (hmin : -1074 ≤ c + 2) :
    ExponentLe (c + 2) (add Format.binary64 u v) := by
  obtain ⟨s, rfl⟩ | ⟨s, m, e, hm, rfl, hmlt, he⟩ := bounded_cases hu
  · obtain ⟨s', rfl⟩ | ⟨s', m', e', hm', rfl, -⟩ := bounded_cases hv
    · rw [add]
      split <;> trivial
    · exact exponentLe_of_bounded (bounded_mono hv (by omega))
  · obtain ⟨s', rfl⟩ | ⟨s', m', e', hm', rfl, hmlt', he'⟩ := bounded_cases hv
    · exact exponentLe_of_bounded (bounded_mono hu (by omega))
    · rw [add]
      simp only [decreaseExponent]
      -- both mantissas are shifted to the smaller exponent `t`
      generalize ht : min e e' = t
      have hleft : m <<< (e - t).toNat < 2 ^ (53 + (c - t).toNat) :=
        Nat.lt_of_lt_of_le (shiftLeft_lt _ hmlt) (Nat.pow_le_pow_right (by decide) (by omega))
      have hright : m' <<< (e' - t).toNat < 2 ^ (53 + (c - t).toNat) :=
        Nat.lt_of_lt_of_le (shiftLeft_lt _ hmlt') (Nat.pow_le_pow_right (by decide) (by omega))
      exact exponentLe_normalize (by omega) (natAbs_sum_lt s s' hleft hright) (by omega)
        (by omega) hmin

/-- A mantissa times a power of two from `2^bound` on. -/
def ExponentGe (bound : Int) : UnpackedFloat → Bool
  | .finite _ _ e _ => bound ≤ e
  | _ => false

/-- The quotient of floats is bounded by the difference of their bounds and one. -/
theorem exponentLe_div {u v : UnpackedFloat} {a b : Int} (hu : Bounded a u = true)
    (hv : ExponentGe b v = true) (hmin : -1074 ≤ a - b + 1) :
    ExponentLe (a - b + 1) (div Format.binary64 u v) := by
  cases v with
  | infinity s' => exact absurd hv (by simp [ExponentGe])
  | notANumber => exact absurd hv (by simp [ExponentGe])
  | zero s' => exact absurd hv (by simp [ExponentGe])
  | finite s' m' e' hm' =>
      rw [ExponentGe, decide_eq_true_eq] at hv
      obtain ⟨s, rfl⟩ | ⟨s, m, e, hm, rfl, hmlt, he⟩ := bounded_cases hu
      · trivial
      · simp only [div, divCore]
        generalize ht : min (e - e')
          (Format.binary64.targetExponent (totalExponent m e - totalExponent m' e')) = t
        generalize hk : (e - e' - t).toNat = k
        have hquotient : m <<< k / m' < 2 ^ (53 + k) :=
          Nat.lt_of_le_of_lt (Nat.div_le_self _ _) (shiftLeft_lt k hmlt)
        exact exponentLe_roundWithAccuracy (by omega) hquotient (by omega) (by omega) hmin

end Herald.Json

namespace Herald

open Json
open Float.Model.UnpackedFloat

theorem toFloat_toUInt64 (n : UInt32) : n.toUInt64.toFloat = n.toFloat := by
  have h : n.toUInt64.toNat = n.toNat := UInt32.toNat_toUInt64 n
  rw [UInt64.toFloat, UInt32.toFloat, Float.Model.ofUInt64, Float.Model.ofUInt32, ofUInt64,
    ofUInt32, h]

theorem exponentGe_billion : ExponentGe (-23) (1000000000 : Float).toModel.unpack = true := by
  decide +kernel

namespace Duration

theorem bounded_toSeconds (d : Duration) : Bounded 38 d.toSeconds.toModel.unpack = true := by
  have hseconds := bounded_mono (bounded_toFloat d.seconds) (show (12 : Int) ≤ 36 by decide)
  have hnanoseconds : Bounded 12 d.nanoseconds.toFloat.toModel.unpack = true := by
    rw [← toFloat_toUInt64]
    exact bounded_toFloat _
  have hfraction : Bounded 36 (d.nanoseconds.toFloat / 1000000000).toModel.unpack = true :=
    bounded_unpack_pack (exponentLe_div hnanoseconds exponentGe_billion (by decide))
      (by decide) (by decide)
  exact bounded_unpack_pack (exponentLe_add hseconds hfraction (by decide)) (by decide) (by decide)

end Duration

/-- **Every time stamp is finite.** -/
theorem isFinite_unixSeconds (t : Option Duration) : (unixSeconds t).isFinite = true := by
  cases t with
  | none => decide +kernel
  | some d => exact isFinite_of_bounded d.bounded_toSeconds

end Herald
