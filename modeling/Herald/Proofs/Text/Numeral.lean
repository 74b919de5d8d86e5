import Herald.Proofs.Text.Capitals
import Herald.Text.Numeral

/-!
# What a numeral is

Reading a numeral goes from character to character with a value so far. What it
accepts is said without it by `Spells`: digits, at least one, perhaps behind a plus
sign, whose value is that of the digits to the base ten. No character of a numeral is
a letter, so capitals do not matter to it.
-/

namespace Herald.Text.Numeral

/-- The characters of a numeral with this value. -/
def Spells (cs : List Char) (v : Nat) : Prop :=
  ∃ ds, ds ≠ [] ∧ (∀ c ∈ ds, c.isDigit = true) ∧ (cs = ds ∨ cs = '+' :: ds)
    ∧ Nat.ofDigitChars 10 ds 0 = v

variable {c : Char} {cs : List Char} {v : Nat}

theorem Spells.ne_nil (h : Spells cs v) : cs ≠ [] := by
  obtain ⟨ds, hne, -, rfl | rfl, -⟩ := h
  · exact hne
  · exact List.cons_ne_nil _ _

theorem digit?_eq_some_iff : digit? c = some v ↔ c.isDigit = true ∧ c.toNat - '0'.toNat = v := by
  have hdigit : c.isDigit = true ↔ '0' ≤ c ∧ c ≤ '9' := by
    rw [Char.isDigit_iff_toNat, Char.le_def, Char.le_def]
    rfl
  rw [digit?, Option.ite_none_right_eq_some, Option.some.injEq, hdigit]

theorem value?_eq_some_iff {acc : Nat} :
    value? acc cs = some v ↔
      (∀ c ∈ cs, c.isDigit = true) ∧ Nat.ofDigitChars 10 cs acc = v := by
  induction cs generalizing acc with
  | nil => simp [value?]
  | cons c cs ih =>
      simp only [value?, Option.bind_eq_some_iff, digit?_eq_some_iff, ih, List.forall_mem_cons,
        Nat.ofDigitChars_cons, Nat.mul_comm 10 acc]
      constructor
      · rintro ⟨_, ⟨hc, rfl⟩, hcs, hv⟩
        exact ⟨⟨hc, hcs⟩, hv⟩
      · rintro ⟨⟨hc, hcs⟩, hv⟩
        exact ⟨_, ⟨hc, rfl⟩, hcs, hv⟩

theorem digits?_eq_some_iff :
    digits? cs = some v ↔
      cs ≠ [] ∧ (∀ c ∈ cs, c.isDigit = true) ∧ Nat.ofDigitChars 10 cs 0 = v := by
  cases cs with
  | nil => simp [digits?]
  | cons c cs => simp [digits?, value?_eq_some_iff]

theorem chars?_cons (c : Char) (cs : List Char) :
    chars? (c :: cs) = if c = '+' then digits? cs else digits? (c :: cs) := by
  split
  case isTrue h =>
    subst h
    rfl
  case isFalse h =>
    rw [chars?]
    rintro r ⟨⟩
    exact h rfl

/-- **A numeral is read exactly if it is one, and with its value.** -/
theorem chars?_eq_some_iff : chars? cs = some v ↔ Spells cs v := by
  unfold Spells
  cases cs with
  | nil => simp [chars?, digits?]
  | cons c cs =>
      rw [chars?_cons]
      split
      case isTrue h =>
        subst h
        rw [digits?_eq_some_iff]
        constructor
        · rintro ⟨hne, hall, hv⟩
          exact ⟨cs, hne, hall, .inr rfl, hv⟩
        · rintro ⟨ds, hne, hall, rfl | htail, hv⟩
          · -- the sign is not a digit itself
            exact absurd (hall '+' List.mem_cons_self) (by decide)
          · obtain rfl := List.tail_eq_of_cons_eq htail
            exact ⟨hne, hall, hv⟩
      case isFalse h =>
        rw [digits?_eq_some_iff]
        constructor
        · rintro ⟨hne, hall, hv⟩
          exact ⟨c :: cs, hne, hall, .inl rfl, hv⟩
        · rintro ⟨ds, hne, hall, rfl | hhead, hv⟩
          · exact ⟨hne, hall, hv⟩
          · exact absurd (List.head_eq_of_cons_eq hhead) h

/-! ## Capitals -/

theorem digit?_toUpper (c : Char) : digit? c.toUpper = digit? c := by
  by_cases h : c.isLower
  · obtain ⟨hlo, hhi, hupper⟩ := toNat_of_isLower h
    have hletter : ∀ {d : Char}, 57 < d.toNat → digit? d = none := by
      intro d hd
      rw [Option.eq_none_iff_forall_ne_some]
      intro v hv
      have hbounds := Char.isDigit_iff_toNat.mp (digit?_eq_some_iff.mp hv).1
      exact absurd hbounds.2 (Nat.not_le_of_gt hd)
    rw [hletter (by omega), hletter (by omega)]
  · rw [Char.toUpper_eq_of_not_isLower h]

theorem toUpper_eq_plus_iff {c : Char} : c.toUpper = '+' ↔ c = '+' := by
  by_cases h : c.isLower
  · obtain ⟨hlo, -, hupper⟩ := toNat_of_isLower h
    have hletter : ∀ {d : Char}, 43 < d.toNat → d ≠ '+' := by
      rintro d hd rfl
      exact absurd hd (by decide)
    exact iff_of_false (hletter (by omega)) (hletter (by omega))
  · rw [Char.toUpper_eq_of_not_isLower h]

theorem value?_map_toUpper (cs : List Char) (acc : Nat) :
    value? acc (cs.map Char.toUpper) = value? acc cs := by
  induction cs generalizing acc with
  | nil => rfl
  | cons c cs ih => simp only [List.map_cons, value?, digit?_toUpper, ih]

theorem digits?_map_toUpper (cs : List Char) : digits? (cs.map Char.toUpper) = digits? cs := by
  cases cs with
  | nil => rfl
  | cons c cs => exact value?_map_toUpper (c :: cs) 0

theorem chars?_map_toUpper (cs : List Char) : chars? (cs.map Char.toUpper) = chars? cs := by
  cases cs with
  | nil => rfl
  | cons c cs =>
      have hplain := digits?_map_toUpper (c :: cs)
      rw [List.map_cons] at hplain ⊢
      simp only [chars?_cons, toUpper_eq_plus_iff, digits?_map_toUpper, hplain]

end Herald.Text.Numeral
