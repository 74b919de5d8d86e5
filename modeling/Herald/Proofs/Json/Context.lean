import Herald.Proofs.Json.Object

/-!
# Numbers in context

The reader of a number looks one character past the last that it takes, to see
whether the number goes on. So what it makes of a text it also makes of any longer
one that starts with it, if the number cannot go on where the shorter one ended. A
number that is read on its own is therefore read as a member of an object too.
-/

namespace Herald.Json

/-- Reading is the same with any text behind in which a number does not go on. -/
def LocalRead {α : Type} (read : Reader α) : Prop :=
  ∀ {cs left rest : List Char} {a : α}, read cs = .ok (a, left) → StopsNumber rest →
    read (cs ++ rest) = .ok (a, left ++ rest)

/-! ## Where a text ends -/

theorem digits_nil : Digits [] := fun _ hd => absurd hd List.not_mem_nil

theorem stopsDigits_nil : StopsDigits [] := fun _ hc => absurd hc (by simp)

theorem digits_takeWhile (cs : List Char) : Digits (cs.takeWhile isDigit) :=
  fun _ hd => List.mem_takeWhile_imp hd

theorem takeWhile_isDigit_append {rest : List Char} (hr : StopsDigits rest) (cs : List Char) :
    (cs ++ rest).takeWhile isDigit = cs.takeWhile isDigit := by
  induction cs with
  | nil => exact takeWhile_digits digits_nil hr
  | cons c cs ih => rw [List.cons_append, List.takeWhile_cons, List.takeWhile_cons, ih]

theorem dropWhile_isDigit_append {rest : List Char} (hr : StopsDigits rest) (cs : List Char) :
    (cs ++ rest).dropWhile isDigit = cs.dropWhile isDigit ++ rest := by
  induction cs with
  | nil => exact dropWhile_digits digits_nil hr
  | cons c cs ih =>
      rw [List.cons_append, List.dropWhile_cons, List.dropWhile_cons, ih]
      split <;> rfl

theorem stopsDigits_dropWhile (cs : List Char) {rest : List Char} (hr : StopsDigits rest) :
    StopsDigits (cs.dropWhile isDigit ++ rest) := by
  cases hd : cs.dropWhile isDigit with
  | nil => exact hr
  | cons c r =>
      have h := List.head?_dropWhile_not isDigit cs
      rw [hd] at h
      exact stopsDigits_cons (by simpa using h)

/-- A mark that stands neither in front of a text nor of what is put behind it. -/
theorem not_marked_append {c : Char} {cs rest : List Char} (h : ∀ r, cs = c :: r → False)
    (hr : c ∉ rest.head?) : ∀ r, cs ++ rest = c :: r → False := by
  intro r happend
  cases cs with
  | nil =>
      rw [List.nil_append] at happend
      exact hr (by rw [happend]; rfl)
  | cons d cs =>
      obtain ⟨rfl, -⟩ := List.cons.inj happend
      exact h cs rfl

/-! ## The parts of a number -/

section Parts

variable {minus down : Bool} {significand : Nat} {exponent : Int} {cs left : List Char} {n : Number}

theorem localRead_finishReal : LocalRead (finishReal minus significand exponent) := by
  intro cs left rest n h _
  rw [finishReal] at h ⊢
  cases hs : scale significand exponent with
  | error e =>
      rw [hs] at h
      exact absurd h (by simp)
  | ok x =>
      rw [hs] at h
      obtain ⟨rfl, rfl⟩ := Prod.mk.inj (Except.ok.inj h)
      rfl

/-- What follows the sign of an exponent. -/
def exponentDigits (minus : Bool) (significand : Nat) (exponent : Int) (down : Bool) :
    Reader Number := fun cs =>
  match cs.takeWhile isDigit, cs.dropWhile isDigit with
  | [], [] => .error .truncated
  | [], _ :: _ => .error .malformed
  | ds, rest =>
    if digitsValue ds < exponentLimit then
      finishReal minus significand
        (if down then exponent - digitsValue ds else exponent + digitsValue ds) rest
    else if significand = 0 ∨ down then .ok (signed minus 0, rest)
    else .error .malformed

theorem readExponent_eq (cs : List Char) :
    readExponent minus significand exponent cs =
      match cs with
      | '+' :: r => exponentDigits minus significand exponent false r
      | '-' :: r => exponentDigits minus significand exponent true r
      | _ => exponentDigits minus significand exponent false cs := by
  split
  case h_1 => rfl
  case h_2 => rfl
  case h_3 hplus hminus =>
    rw [readExponent]
    · rfl
    · exact hplus
    · exact hminus

theorem localRead_exponentDigits :
    LocalRead (exponentDigits minus significand exponent down) := by
  intro cs left rest n h hr
  rw [exponentDigits] at h ⊢
  rw [takeWhile_isDigit_append hr.stopsDigits, dropWhile_isDigit_append hr.stopsDigits]
  cases hds : cs.takeWhile isDigit with
  | nil =>
      rw [hds] at h
      cases hdrop : cs.dropWhile isDigit <;> rw [hdrop] at h <;> exact absurd h (by simp)
  | cons d ds =>
      rw [hds] at h
      dsimp only at h ⊢
      split_ifs at h ⊢
      · exact localRead_finishReal h hr
      · exact localRead_finishReal h hr
      · obtain ⟨rfl, rfl⟩ := Prod.mk.inj (Except.ok.inj h)
        rfl

theorem localRead_readExponent : LocalRead (readExponent minus significand exponent) := by
  intro cs left rest n h hr
  rw [readExponent_eq] at h ⊢
  cases cs with
  | nil => exact absurd h (by simp [exponentDigits])
  | cons c r =>
      rw [List.cons_append]
      split at h
      case h_1 heq =>
        obtain ⟨rfl, rfl⟩ := List.cons.inj heq
        exact localRead_exponentDigits h hr
      case h_2 heq =>
        obtain ⟨rfl, rfl⟩ := List.cons.inj heq
        exact localRead_exponentDigits h hr
      case h_3 hplus hminus =>
        split
        case h_1 heq => exact absurd (by rw [(List.cons.inj heq).1]) (hplus r)
        case h_2 heq => exact absurd (by rw [(List.cons.inj heq).1]) (hminus r)
        case h_3 => exact localRead_exponentDigits h hr

theorem localRead_readFraction : LocalRead (readFraction minus significand exponent) := by
  intro cs left rest n h hr
  rw [readFraction] at h ⊢
  rw [takeWhile_isDigit_append hr.stopsDigits, dropWhile_isDigit_append hr.stopsDigits]
  cases hds : cs.takeWhile isDigit with
  | nil =>
      rw [hds] at h
      cases hdrop : cs.dropWhile isDigit <;> rw [hdrop] at h <;> exact absurd h (by simp)
  | cons d ds =>
      rw [hds] at h
      dsimp only at h ⊢
      split at h
      case h_1 htail =>
        rw [htail]
        exact localRead_readExponent h hr
      case h_2 htail =>
        rw [htail]
        exact localRead_readExponent h hr
      case h_3 he hE =>
        -- the fraction ends here, and `rest` does not make it go on
        split
        case h_1 htail =>
          exact (not_marked_append he (fun hc => (hr _ hc).2.2.1 rfl) _ htail).elim
        case h_2 htail =>
          exact (not_marked_append hE (fun hc => (hr _ hc).2.2.2 rfl) _ htail).elim
        case h_3 => exact localRead_finishReal h hr

theorem whole_of_readUnsigned (h : readUnsigned minus cs = .ok (n, left)) :
    Whole (cs.takeWhile isDigit) where
  digits := digits_takeWhile cs
  nonempty hds := by
    rw [readUnsigned, hds] at h
    cases hdrop : cs.dropWhile isDigit <;> rw [hdrop] at h <;> exact absurd h (by simp)
  unpadded d r hds := by
    rw [readUnsigned, hds] at h
    exact absurd h (by simp)

theorem localRead_readUnsigned : LocalRead (readUnsigned minus) := by
  intro cs left rest n h hr
  have hwhole := whole_of_readUnsigned h
  have hstop : StopsDigits (cs.dropWhile isDigit) := by
    have hnil := stopsDigits_dropWhile cs stopsDigits_nil
    rwa [List.append_nil] at hnil
  -- the digits are the same in both texts, and what is behind them is read by a part above
  rw [← List.takeWhile_append_dropWhile (p := isDigit) (l := cs)] at h ⊢
  rw [readUnsigned_digits hwhole hstop] at h
  rw [List.append_assoc, readUnsigned_digits hwhole (stopsDigits_dropWhile cs hr.stopsDigits)]
  split at h
  case h_1 htail =>
    rw [htail]
    exact localRead_readFraction h hr
  case h_2 htail =>
    rw [htail]
    exact localRead_readExponent h hr
  case h_3 htail =>
    rw [htail]
    exact localRead_readExponent h hr
  case h_4 hpoint he hE =>
    split
    case h_1 htail =>
      exact (not_marked_append hpoint (fun hc => (hr _ hc).2.1 rfl) _ htail).elim
    case h_2 htail =>
      exact (not_marked_append he (fun hc => (hr _ hc).2.2.1 rfl) _ htail).elim
    case h_3 htail =>
      exact (not_marked_append hE (fun hc => (hr _ hc).2.2.2 rfl) _ htail).elim
    case h_4 =>
      split_ifs at h ⊢
      · obtain ⟨rfl, rfl⟩ := Prod.mk.inj (Except.ok.inj h)
        rfl
      · exact localRead_finishReal h hr

theorem readNumber_of_ne {c : Char} (h : c ≠ '-') (r : List Char) :
    readNumber (c :: r) = readUnsigned false (c :: r) := by
  rw [readNumber]
  intro r' heq
  exact h (List.cons.inj heq).1

theorem localRead_readNumber : LocalRead readNumber := by
  intro cs left rest n h hr
  cases cs with
  | nil => exact absurd h (by simp [readNumber, readUnsigned])
  | cons c r =>
      by_cases hminus : c = '-'
      · subst hminus
        exact localRead_readUnsigned h hr
      · rw [readNumber_of_ne hminus] at h
        rw [List.cons_append, readNumber_of_ne hminus, ← List.cons_append]
        exact localRead_readUnsigned h hr

end Parts

/-! ## Whole values -/

/-- A value of the wrong kind is never read. -/
theorem wrongKind_ne_ok {α : Type} {cs left : List Char} {a : α} :
    wrongKind cs ≠ .ok (a, left) := by
  intro h
  unfold wrongKind at h
  dsimp only at h
  repeat' split at h
  all_goals cases h

theorem startsNumber_of_numberAs {α : Type} {convert : Number → Option α} {cs left : List Char}
    {a : α} (h : numberAs convert cs = .ok (a, left)) :
    ∃ c r, cs = c :: r ∧ startsNumber c = true := by
  cases cs with
  | nil => exact absurd h (by simp [numberAs])
  | cons c r =>
      rw [numberAs] at h
      split at h
      case isTrue hc => exact ⟨c, r, rfl, hc⟩
      case isFalse _ => exact absurd h wrongKind_ne_ok

/-- **A number is read the same in front of anything that does not make it go on.** -/
theorem localRead_numberAs {α : Type} (convert : Number → Option α) :
    LocalRead (numberAs convert) := by
  intro cs left rest a h hr
  obtain ⟨c, r, rfl, hc⟩ := startsNumber_of_numberAs h
  rw [numberAs, if_pos hc] at h
  rw [List.cons_append, numberAs, if_pos hc, ← List.cons_append]
  cases hnumber : readNumber (c :: r) with
  | error e =>
      rw [hnumber] at h
      exact absurd h (by simp [Parsed.andThen])
  | ok p =>
      obtain ⟨n, behind⟩ := p
      rw [hnumber] at h
      rw [localRead_readNumber hnumber hr]
      dsimp only [Parsed.andThen] at h ⊢
      cases hconvert : convert n with
      | none =>
          rw [hconvert] at h
          exact absurd h (by simp)
      | some b =>
          rw [hconvert] at h
          obtain ⟨rfl, rfl⟩ := Prod.mk.inj (Except.ok.inj h)
          rfl

theorem startsValue_of_numberAs {α : Type} {convert : Number → Option α} {cs left : List Char}
    {a : α} (h : numberAs convert cs = .ok (a, left)) : StartsValue cs := by
  obtain ⟨c, r, rfl, hc⟩ := startsNumber_of_numberAs h
  refine ⟨c, r, rfl, ?_⟩
  rcases Bool.or_eq_true_iff.mp hc with hminus | hdigit
  · rw [of_decide_eq_true hminus]
    decide
  · exact isSpace_of_isDigit hdigit

end Herald.Json
