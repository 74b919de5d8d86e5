import Herald.Proofs.Decimal.Shortest
import Herald.Proofs.Json.Scale
import Herald.Proofs.Wire.Message

/-!
# Times can be read

A clock that counts whole seconds in 64 bits gives times below `2^65`. Every float
below that is printed so that the reader takes it: as digits with a point, with no
zero in front that does not belong there, or with an exponent that is too small for
the number to get out of range.
-/

namespace Herald.Wire

open Json Decimal

/-- A number that is read behind its sign, whatever follows it. -/
def Readable (cs : List Char) : Prop :=
  ∀ minus, ∃ n, ∀ rest, StopsNumber rest → readUnsigned minus (cs ++ rest) = .ok (n, rest)

/-- Digits, a point and digits. -/
theorem readable_point {whole fraction : List Char} (hw : Whole whole) (hf : Digits fraction)
    (hne : fraction ≠ []) (hlen : whole.length < 50) :
    Readable (whole ++ '.' :: fraction) := by
  intro minus
  have hleft := absorb_le 0 whole
  obtain ⟨n, hn⟩ := finishReal_of_lt minus (absorb (absorb 0 whole).1 fraction).1
    (show ((absorb 0 whole).2 : Int)
      - (fraction.length - (absorb (absorb 0 whole).1 fraction).2 : Nat) < 50 by omega)
  refine ⟨n, fun rest hr => ?_⟩
  have hpoint : StopsDigits ('.' :: (fraction ++ rest)) := stopsDigits_cons (by decide)
  rw [List.append_assoc, List.cons_append, readUnsigned_digits hw hpoint]
  exact (readFraction_end hf hne hr).trans (hn rest)

/-- An exponent that keeps a number in range. -/
theorem readable_exponent {lead : Int} (hlead : lead < 20) (minus : Bool) (significand : Nat)
    {exponent : Int} (hexp : exponent < 2) :
    ∃ n, ∀ rest, StopsNumber rest →
      readExponent minus significand exponent
        ((if lead < 0 then '-' :: (toString (-lead).toNat).toList
          else "+".toList ++ (toString lead.toNat).toList) ++ rest) = .ok (n, rest) := by
  simp only [Nat.toString_eq_repr, Nat.toList_repr]
  split
  case isTrue _ =>
    by_cases hsmall : (-lead).toNat < exponentLimit
    · obtain ⟨n, hn⟩ := finishReal_of_lt minus significand
        (show exponent - (-lead).toNat < 50 by omega)
      refine ⟨n, fun rest hr => ?_⟩
      rw [List.cons_append, readExponent_minus hr.stopsDigits, if_pos hsmall, hn]
    · refine ⟨signed minus 0, fun rest hr => ?_⟩
      rw [List.cons_append, readExponent_minus hr.stopsDigits, if_neg hsmall]
  case isFalse _ =>
    have hlimit : lead.toNat < exponentLimit :=
      Nat.lt_of_lt_of_le (show lead.toNat < 20 by omega) (by decide)
    obtain ⟨n, hn⟩ := finishReal_of_lt minus significand
      (show exponent + lead.toNat < 50 by omega)
    refine ⟨n, fun rest hr => ?_⟩
    have hplus : "+".toList = ['+'] := by decide
    rw [hplus, List.append_assoc, List.singleton_append,
      readExponent_plus hlimit hr.stopsDigits, hn]

/-- A decimal with an exponent. -/
theorem readable_layScientific {d : Char} {ds : List Char} (hd : Digits (d :: ds)) {lead : Int}
    (hlead : lead < 20) : Readable (layScientific timeLayout (d :: ds) lead) := by
  intro minus
  have hwhole : Whole [d] :=
    ⟨hd.of_sublist (List.sublist_append_left [d] ds), by simp, by simp⟩
  have hleft := absorb_le 0 [d]
  rw [List.length_singleton] at hleft
  have hstop : ∀ c r, isDigit c = false → StopsDigits (c :: r) := fun _ _ => stopsDigits_cons
  cases ds with
  | nil =>
      obtain ⟨n, hn⟩ := readable_exponent hlead minus (absorb 0 [d]).1
        (show ((absorb 0 [d]).2 : Int) < 2 by omega)
      refine ⟨n, fun rest hr => ?_⟩
      have hsplit : layScientific timeLayout [d] lead ++ rest
          = [d] ++ 'e' :: ((if lead < 0 then '-' :: (toString (-lead).toNat).toList
              else "+".toList ++ (toString lead.toNat).toList) ++ rest) := by
        simp [layScientific, timeLayout]
      rw [hsplit, readUnsigned_digits hwhole (hstop 'e' _ (by decide))]
      exact hn rest hr
  | cons d' ds =>
      have hfraction : Digits (d' :: ds) := hd.of_sublist (List.sublist_cons_self d _)
      generalize hsig : absorb (absorb 0 [d]).1 (d' :: ds) = taken
      obtain ⟨n, hn⟩ := readable_exponent hlead minus taken.1
        (show ((absorb 0 [d]).2 : Int) - ((d' :: ds).length - taken.2 : Nat) < 2 by omega)
      refine ⟨n, fun rest hr => ?_⟩
      have hsplit : layScientific timeLayout (d :: d' :: ds) lead ++ rest
          = [d] ++ '.' :: ((d' :: ds) ++ 'e' ::
            ((if lead < 0 then '-' :: (toString (-lead).toNat).toList
              else "+".toList ++ (toString lead.toNat).toList) ++ rest)) := by
        simp [layScientific, timeLayout]
      rw [hsplit, readUnsigned_digits hwhole (hstop '.' _ (by decide))]
      refine (readFraction_exponent hfraction (by simp)).trans ?_
      rw [hsig]
      exact hn rest hr

/-- A decimal without an exponent. -/
theorem readable_layPlain {ds : List Char} (hd : Digits ds) (hne : ds ≠ [])
    (hhead : ds.head? ≠ some '0') {lead : Int} (hlead : lead < 20) :
    Readable (layPlain ds lead) := by
  rw [layPlain]
  split
  case isTrue _ =>
    have hzero : Whole ['0'] := ⟨digits_zeros 1, by simp, by simp⟩
    exact readable_point hzero ((digits_zeros _).append hd) (by simp [hne]) (by decide)
  case isFalse hnonneg =>
    dsimp only
    -- no zero stands in front, because none does in front of the digits
    have hunpadded : ∀ es : List Char, es.head? = ds.head? → ∀ c r, es ≠ '0' :: c :: r := by
      intro es he c r h
      rw [h] at he
      exact hhead he.symm
    split
    case isTrue hshort =>
      have hwhole : Whole (ds ++ zeros (lead.toNat + 1 - ds.length)) := by
        refine ⟨hd.append (digits_zeros _), by simp [hne], hunpadded _ ?_⟩
        exact List.head?_append_of_ne_nil _ hne
      have hlength : (ds ++ zeros (lead.toNat + 1 - ds.length)).length < 50 := by
        rw [List.length_append, zeros, List.length_replicate]
        omega
      exact readable_point hwhole (digits_zeros 1) (by simp) hlength
    case isFalse hlong =>
      have hwhole : Whole (ds.take (lead.toNat + 1)) := by
        refine ⟨hd.of_sublist (List.take_sublist _ _), by simp [hne], hunpadded _ ?_⟩
        rw [List.head?_take, if_neg (Nat.succ_ne_zero _)]
      have hlength : (ds.take (lead.toNat + 1)).length < 50 := by
        rw [List.length_take]
        omega
      refine readable_point hwhole (hd.of_sublist (List.drop_sublist _ _)) ?_ hlength
      rw [Ne, List.drop_eq_nil_iff]
      omega

/-! ## Times -/

/-- What is written of a float below `2^65`, apart from its sign. -/
theorem exists_readable {x : Float} (h : exponentBits x ≤ 1087) :
    ∃ cs, Readable cs ∧ writeTime x = if isNegative x then '-' :: cs else cs := by
  refine ⟨_, ?_, rfl⟩
  dsimp only
  split
  case isTrue _ =>
    exact readable_point (whole_toDigits 0) (digits_zeros 1) (by simp) (by decide)
  case isFalse hzero =>
    have hlead := lead_shortest_lt hzero h
    have hpos := (shortest_spec (regular_magnitude hzero)).1
    generalize shortest (magnitude x) = d at hlead hpos
    have hlength : (toString d.digits).toList.length = digitCount d.digits := by
      rw [digitCount, String.length_toList]
    rw [← hlength] at hlead
    rw [Nat.toString_eq_repr, Nat.toList_repr] at hlead ⊢
    have hdigits := digits_toDigits d.digits
    split
    case isTrue _ =>
      exact readable_layPlain hdigits Nat.toDigits_ne_nil (head_toDigits hpos) hlead
    case isFalse _ =>
      cases hds : Nat.toDigits 10 d.digits with
      | nil => exact absurd hds Nat.toDigits_ne_nil
      | cons c cs =>
          rw [hds] at hlead hdigits
          exact readable_layScientific hdigits hlead

/-- **A time below `2^65` is read as a float.** -/
theorem exists_readsBack {x : Float} (h : exponentBits x ≤ 1087) : ∃ y, ReadsBack x y := by
  obtain ⟨cs, hread, hwrite⟩ := exists_readable h
  obtain ⟨n, hn⟩ := hread (isNegative x)
  refine ⟨n.toFloat, fun rest hr => ?_⟩
  have hbody := hn rest hr.stopsNumber
  rw [hwrite]
  split
  case isTrue hsign =>
    rw [hsign] at hbody
    exact numberAs_negative hbody rfl
  case isFalse hsign =>
    rw [Bool.not_eq_true] at hsign
    rw [hsign] at hbody
    exact numberAs_unsigned hbody rfl

/-- A time does not start with a space. -/
theorem startsValue_writeTime {x : Float} (h : exponentBits x ≤ 1087) :
    StartsValue (writeTime x) := by
  obtain ⟨cs, hread, hwrite⟩ := exists_readable h
  obtain ⟨n, hn⟩ := hread false
  have hbody := hn [] (by simp [StopsNumber])
  rw [List.append_nil] at hbody
  obtain ⟨d, r, rfl, hd⟩ := isDigit_of_readUnsigned hbody
  rw [hwrite]
  split
  case isTrue _ => exact ⟨'-', d :: r, rfl, by decide⟩
  case isFalse _ => exact ⟨d, r, rfl, isSpace_of_isDigit hd⟩

end Herald.Wire
