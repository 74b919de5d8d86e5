import Mathlib.Data.List.TakeWhile
import Mathlib.Tactic.Ring
import Herald.Wire.Basic

/-!
# Numbers read back

A number on the wire is digits, perhaps a point and further digits, and perhaps an
exponent. The statements here say what the reader makes of each of these parts in
turn: it takes the digits as they were written, stops behind the last of them, and
leaves the rest of the text alone. They end in two results. A natural number of 64
bits is read as itself; and a number with point or exponent is read as the float
of its significand and its exponent, whatever these are.

The reader takes a digit only as long as the significand fits 64 bits. What does
not fit counts for the exponent, so the exponent is never larger than the number
of digits in front of the point and the written exponent together.
-/

namespace Herald.Json

/-- Digits and nothing else. -/
def Digits (ds : List Char) : Prop := ∀ d ∈ ds, isDigit d = true

/-- Digits in front of a point: at least one, and no zero in front of others. -/
structure Whole (ds : List Char) : Prop where
  digits : Digits ds
  nonempty : ds ≠ []
  unpadded : ∀ d rest, ds ≠ '0' :: d :: rest

/-- A text in which no run of digits goes on. -/
def StopsDigits (rest : List Char) : Prop := ∀ c ∈ rest.head?, isDigit c = false

/-- A text in which no number goes on. -/
def StopsNumber (rest : List Char) : Prop :=
  ∀ c ∈ rest.head?, isDigit c = false ∧ c ≠ '.' ∧ c ≠ 'e' ∧ c ≠ 'E'

theorem StopsNumber.stopsDigits {rest : List Char} (h : StopsNumber rest) : StopsDigits rest :=
  fun c hc => (h c hc).1

theorem stopsDigits_cons {c : Char} {rest : List Char} (h : isDigit c = false) :
    StopsDigits (c :: rest) := by
  intro d hd
  rw [List.head?_cons, Option.mem_some_iff] at hd
  exact hd ▸ h

theorem Digits.append {ds es : List Char} (h : Digits ds) (h' : Digits es) : Digits (ds ++ es) := by
  intro d hd
  rcases List.mem_append.mp hd with hd | hd
  · exact h d hd
  · exact h' d hd

theorem Digits.of_sublist {ds es : List Char} (h : Digits ds) (hs : es.Sublist ds) : Digits es :=
  fun d hd => h d (hs.subset hd)

theorem digits_zeros (n : Nat) : Digits (Decimal.zeros n) := by
  intro d hd
  rw [Decimal.zeros, List.mem_replicate] at hd
  rw [hd.2]
  decide

/-! ## Runs of digits -/

theorem takeWhile_digits {ds rest : List Char} (h : Digits ds) (hr : StopsDigits rest) :
    (ds ++ rest).takeWhile isDigit = ds := by
  rw [List.takeWhile_append_of_pos h]
  cases rest with
  | nil => simp
  | cons c rest =>
      rw [List.takeWhile_cons_of_neg (by simp [hr c rfl]), List.append_nil]

theorem dropWhile_digits {ds rest : List Char} (h : Digits ds) (hr : StopsDigits rest) :
    (ds ++ rest).dropWhile isDigit = rest := by
  rw [List.dropWhile_append_of_pos h]
  cases rest with
  | nil => rfl
  | cons c rest => exact List.dropWhile_cons_of_neg (by simp [hr c rfl])

/-- The value that digits add up to when all of them are taken. -/
theorem digitsValue_toDigits (n : Nat) : digitsValue (Nat.toDigits 10 n) = n := by
  have hcomm : (fun n d => n * 10 + digitValue d) = fun (n : Nat) (d : Char) =>
      10 * n + (d.toNat - '0'.toNat) := by
    funext n d
    rw [Nat.mul_comm]
    rfl
  rw [digitsValue, hcomm, ← Nat.ofDigitChars_eq_foldl, Nat.ofDigitChars_ten_toDigits]

theorem digits_toDigits (n : Nat) : Digits (Nat.toDigits 10 n) := by
  intro d hd
  have h := Nat.isDigit_of_mem_toDigits (by decide) (by decide) hd
  simpa [isDigit, Char.isDigit, Char.le_def] using h

theorem writeNat_eq (n : Nat) : writeNat n = Nat.toDigits 10 n := by
  rw [writeNat, Nat.toString_eq_repr, Nat.toList_repr]

/-- A positive number does not start with a zero. -/
theorem head_toDigits {n : Nat} (h : 0 < n) : (Nat.toDigits 10 n).head? ≠ some '0' := by
  induction n using Nat.strongRecOn with
  | ind n ih =>
    rw [Nat.toDigits_eq_if (by decide)]
    split
    case isTrue _ =>
      rw [List.head?_cons, Ne, Option.some.injEq, Nat.digitChar_eq_zero]
      omega
    case isFalse hn =>
      rw [List.head?_append, Option.or_of_isSome (by simp)]
      exact ih (n / 10) (by omega) (by omega)

theorem whole_toDigits (n : Nat) : Whole (Nat.toDigits 10 n) where
  digits := digits_toDigits n
  nonempty := Nat.toDigits_ne_nil
  unpadded d rest h := by
    rcases Nat.eq_zero_or_pos n with hn | hn
    · subst hn
      simp at h
    · exact head_toDigits hn (by rw [h]; rfl)

/-! ## The significand -/

/-- No more digits are left over than there are. -/
theorem absorb_le (acc : Nat) (ds : List Char) : (absorb acc ds).2 ≤ ds.length := by
  induction ds generalizing acc with
  | nil => exact Nat.le_refl _
  | cons d ds ih =>
      rw [absorb]
      split
      case isTrue _ => exact Nat.le_succ_of_le (ih _)
      case isFalse _ => exact Nat.le_refl _

/-- Digits whose value fits are all taken. -/
theorem absorb_of_fits {acc : Nat} (ds : List Char)
    (h : Nat.ofDigitChars 10 ds acc < significandLimit) :
    absorb acc ds = (Nat.ofDigitChars 10 ds acc, 0) := by
  induction ds generalizing acc with
  | nil => rw [Nat.ofDigitChars_nil]; rfl
  | cons d ds ih =>
      have hnext : 10 * acc + (d.toNat - '0'.toNat) = acc * 10 + digitValue d := by
        rw [Nat.mul_comm]
        rfl
      rw [Nat.ofDigitChars_cons, hnext] at h ⊢
      -- the value only grows with further digits
      have hgrow : acc * 10 + digitValue d ≤ Nat.ofDigitChars 10 ds (acc * 10 + digitValue d) := by
        rw [Nat.ofDigitChars_eq_ofDigitChars_zero]
        have hpos : 0 < 10 ^ ds.length := Nat.pow_pos (by decide)
        exact Nat.le_add_right_of_le (Nat.le_mul_of_pos_left _ hpos)
      rw [absorb, if_pos (Nat.lt_of_le_of_lt hgrow h)]
      exact ih h

/-- A written number that fits is taken as itself. -/
theorem absorb_toDigits {n : Nat} (h : n < significandLimit) :
    absorb 0 (Nat.toDigits 10 n) = (n, 0) := by
  have hvalue : Nat.ofDigitChars 10 (Nat.toDigits 10 n) 0 = n := Nat.ofDigitChars_ten_toDigits
  rw [absorb_of_fits _ (by rw [hvalue]; exact h), hvalue]

/-! ## The parts of a number -/

section Parts

variable {minus : Bool} {ds rest : List Char} {significand : Nat} {exponent : Int}

/-- What follows the digits in front decides how the reader goes on. -/
theorem readUnsigned_digits (h : Whole ds) : StopsDigits rest →
    readUnsigned minus (ds ++ rest) =
      match rest with
      | '.' :: r => readFraction minus (absorb 0 ds).1 (absorb 0 ds).2 r
      | 'e' :: r => readExponent minus (absorb 0 ds).1 (absorb 0 ds).2 r
      | 'E' :: r => readExponent minus (absorb 0 ds).1 (absorb 0 ds).2 r
      | _ =>
        if (absorb 0 ds).2 = 0 then .ok (ofInteger minus (absorb 0 ds).1, rest)
        else finishReal minus (absorb 0 ds).1 (absorb 0 ds).2 rest := by
  intro hr
  rw [readUnsigned, takeWhile_digits h.digits hr, dropWhile_digits h.digits hr]
  split
  case h_1 => exact absurd rfl h.nonempty
  case h_2 => exact absurd rfl h.nonempty
  case h_3 => exact absurd rfl (h.unpadded _ _)
  case h_4 => rfl

/-- A number that is only digits. -/
theorem readUnsigned_whole (h : Whole ds) (hr : StopsNumber rest) (hfits : (absorb 0 ds).2 = 0) :
    readUnsigned minus (ds ++ rest) = .ok (ofInteger minus (absorb 0 ds).1, rest) := by
  rw [readUnsigned_digits h hr.stopsDigits]
  split
  case h_1 => exact absurd rfl (hr '.' rfl).2.1
  case h_2 => exact absurd rfl (hr 'e' rfl).2.2.1
  case h_3 => exact absurd rfl (hr 'E' rfl).2.2.2
  case h_4 => rw [if_pos hfits]

/-- A fraction that nothing follows. -/
theorem readFraction_end (h : Digits ds) (hne : ds ≠ []) (hr : StopsNumber rest) :
    readFraction minus significand exponent (ds ++ rest)
      = finishReal minus (absorb significand ds).1
          (exponent - (ds.length - (absorb significand ds).2 : Nat)) rest := by
  rw [readFraction, takeWhile_digits h hr.stopsDigits, dropWhile_digits h hr.stopsDigits]
  split
  case h_1 => exact absurd rfl hne
  case h_2 => exact absurd rfl hne
  case h_3 =>
    dsimp only
    split
    case h_1 => exact absurd rfl (hr 'e' rfl).2.2.1
    case h_2 => exact absurd rfl (hr 'E' rfl).2.2.2
    case h_3 => rfl

/-- A fraction that an exponent follows. -/
theorem readFraction_exponent (h : Digits ds) (hne : ds ≠ []) :
    readFraction minus significand exponent (ds ++ 'e' :: rest)
      = readExponent minus (absorb significand ds).1
          (exponent - (ds.length - (absorb significand ds).2 : Nat)) rest := by
  have hr : StopsDigits ('e' :: rest) := stopsDigits_cons (by decide)
  rw [readFraction, takeWhile_digits h hr, dropWhile_digits h hr]
  split
  case h_1 => exact absurd rfl hne
  case h_2 => exact absurd rfl hne
  case h_3 => rfl

/-- A written exponent that is not negative. -/
theorem readExponent_plus {n : Nat} (hn : n < exponentLimit) (hr : StopsDigits rest) :
    readExponent minus significand exponent ('+' :: (Nat.toDigits 10 n ++ rest))
      = finishReal minus significand (exponent + n) rest := by
  have hd := digits_toDigits n
  rw [readExponent]
  dsimp only
  rw [takeWhile_digits hd hr, dropWhile_digits hd hr]
  split
  case h_1 h => exact absurd h Nat.toDigits_ne_nil
  case h_2 h => exact absurd h Nat.toDigits_ne_nil
  case h_3 =>
    rw [digitsValue_toDigits, if_pos hn]
    rfl

/-- A written exponent that is negative; one beyond the limit makes the number zero. -/
theorem readExponent_minus {n : Nat} (hr : StopsDigits rest) :
    readExponent minus significand exponent ('-' :: (Nat.toDigits 10 n ++ rest))
      = if n < exponentLimit then finishReal minus significand (exponent - n) rest
        else .ok (signed minus 0, rest) := by
  have hd := digits_toDigits n
  rw [readExponent]
  dsimp only
  rw [takeWhile_digits hd hr, dropWhile_digits hd hr]
  split
  case h_1 h => exact absurd h Nat.toDigits_ne_nil
  case h_2 h => exact absurd h Nat.toDigits_ne_nil
  case h_3 =>
    rw [digitsValue_toDigits]
    by_cases hn : n < exponentLimit
    · rw [if_pos hn, if_pos hn]
      rfl
    · rw [if_neg hn, if_neg hn, if_pos (Or.inr rfl)]

end Parts

/-! ## Whole numbers -/

/-- Only what starts with a digit is read as a number. -/
theorem isDigit_of_readUnsigned {minus : Bool} {cs rest : List Char} {n : Number}
    (h : readUnsigned minus cs = .ok (n, rest)) : ∃ d r, cs = d :: r ∧ isDigit d = true := by
  cases cs with
  | nil => exact absurd h (by simp [readUnsigned])
  | cons d r =>
      refine ⟨d, r, rfl, ?_⟩
      by_contra hd
      rw [readUnsigned, List.takeWhile_cons_of_neg hd, List.dropWhile_cons_of_neg hd] at h
      exact absurd h (by simp)

/-- A number without a sign is read as what its digits give. -/
theorem readNumber_of_readUnsigned {cs rest : List Char} {n : Number}
    (h : readUnsigned false cs = .ok (n, rest)) : readNumber cs = .ok (n, rest) := by
  obtain ⟨d, r, rfl, hd⟩ := isDigit_of_readUnsigned h
  have hminus : d ≠ '-' := by
    rintro rfl
    exact absurd hd (by decide)
  rw [readNumber]
  · exact h
  · simp [hminus]

section Convert

variable {α : Type} {convert : Number → Option α} {cs rest : List Char} {n : Number} {a : α}

/-- A converter takes what the digits give. -/
theorem numberAs_unsigned (hread : readUnsigned false cs = .ok (n, rest))
    (ha : convert n = some a) : numberAs convert cs = .ok (a, rest) := by
  obtain ⟨d, r, rfl, hd⟩ := isDigit_of_readUnsigned hread
  rw [numberAs, if_pos (by simp [startsNumber, hd]), readNumber_of_readUnsigned hread]
  dsimp only [Parsed.andThen]
  rw [ha]

/-- A number with a minus sign is read as what stands behind the sign gives. -/
theorem numberAs_negative (hread : readUnsigned true cs = .ok (n, rest))
    (ha : convert n = some a) : numberAs convert ('-' :: cs) = .ok (a, rest) := by
  rw [numberAs, if_pos (by decide), readNumber, hread]
  dsimp only [Parsed.andThen]
  rw [ha]

end Convert

/-- **A natural number of 64 bits is read as itself.** -/
theorem readUnsigned_writeNat {n : Nat} {rest : List Char} (hn : n < 2 ^ 64)
    (hr : StopsNumber rest) :
    readUnsigned false (Nat.toDigits 10 n ++ rest) = .ok (.natural (UInt64.ofNat n), rest) := by
  have htaken := absorb_toDigits (n := n) hn
  rw [readUnsigned_whole (whole_toDigits n) hr (by rw [htaken]), htaken]
  rfl

/-- **A written rank or line is read as itself.** -/
theorem uint32_writeUInt32 (n : UInt32) {rest : List Char} (hr : StopsNumber rest) :
    uint32 (Wire.writeUInt32 n ++ rest) = .ok (n, rest) := by
  have hlt : n.toNat < 2 ^ 32 := n.toNat_lt
  have hsize : (UInt64.ofNat n.toNat).toNat = n.toNat := by
    rw [UInt64.toNat_ofNat']
    omega
  rw [Wire.writeUInt32, writeNat_eq]
  refine numberAs_unsigned (readUnsigned_writeNat (by omega) hr) ?_
  rw [Number.toUInt32?, if_pos (by omega), Option.some.injEq, ← UInt32.toNat_inj,
    UInt64.toNat_toUInt32, hsize]
  omega

end Herald.Json
