import Herald.Text.Split

/-!
# Pieces and separators

Cutting a text at every separator is the opposite of putting separators between pieces:
there is one way to write a text as pieces without a separator in them. Cutting at the
last separator leaves none behind the cut.
-/

namespace Herald.Text

variable {sep : Char} {cs : List Char}

theorem splitOn_eq (sep : Char) (cs : List Char) : splitOn sep cs = cs.splitOn sep := by
  induction cs with
  | nil => rw [splitOn, List.splitOn_nil]
  | cons c r ih =>
      rw [splitOn, List.splitOn_cons_eq_if_modifyHead, ih]
      simp only [beq_iff_eq]
      split
      case isTrue _ => rfl
      case isFalse _ =>
        cases hr : r.splitOn sep with
        | nil => exact absurd hr (List.splitOn_ne_nil _ _)
        | cons p ps => rfl

theorem notMem_of_mem_splitOn {p : List Char} (h : p ∈ splitOn sep cs) : sep ∉ p := by
  induction cs generalizing p with
  | nil =>
      rw [splitOn, List.mem_singleton] at h
      simp [h]
  | cons c r ih =>
      rw [splitOn] at h
      split at h
      case isTrue _ =>
        rcases List.mem_cons.mp h with rfl | h
        · simp
        · exact ih h
      case isFalse hc =>
        cases hr : splitOn sep r with
        | nil =>
            rw [splitOn_eq] at hr
            exact absurd hr (List.splitOn_ne_nil _ _)
        | cons q qs =>
            rw [hr] at h ih
            rcases List.mem_cons.mp h with rfl | h
            · simp [Ne.symm hc, ih]
            · exact ih (List.mem_cons_of_mem q h)

/-- **The pieces of a text are what stands between its separators.** -/
theorem splitOn_eq_iff {pieces : List (List Char)} :
    splitOn sep cs = pieces ↔
      cs = [sep].intercalate pieces ∧ pieces ≠ [] ∧ ∀ p ∈ pieces, sep ∉ p := by
  constructor
  · rintro rfl
    refine ⟨?_, ?_, fun p hp => notMem_of_mem_splitOn hp⟩
    · rw [splitOn_eq, List.intercalate_splitOn]
    · rw [splitOn_eq]
      exact List.splitOn_ne_nil _ _
  · rintro ⟨rfl, hne, hapart⟩
    rw [splitOn_eq, List.splitOn_intercalate sep hapart hne]

theorem splitOn_append_cons (before behind : List Char) :
    splitOn sep (before ++ sep :: behind) = splitOn sep before ++ splitOn sep behind := by
  simp only [splitOn_eq, List.splitOn_append_cons_self]

/-! ## The last separator -/

theorem splitLast?_eq_none_iff : splitLast? sep cs = none ↔ sep ∉ cs := by
  induction cs with
  | nil => simp [splitLast?]
  | cons c r ih =>
      rw [splitLast?, List.mem_cons, not_or, ← ih]
      cases splitLast? sep r with
      | some cut => simp
      | none => simp [eq_comm]

theorem splitLast?_append {behind : List Char} (h : sep ∉ behind) (before : List Char) :
    splitLast? sep (before ++ sep :: behind) = some (before, behind) := by
  induction before with
  | nil => rw [List.nil_append, splitLast?, splitLast?_eq_none_iff.mpr h, if_pos rfl]
  | cons c before ih => rw [List.cons_append, splitLast?, ih]

/-- **What is behind the last separator has none.** -/
theorem splitLast?_eq_some_iff {before behind : List Char} :
    splitLast? sep cs = some (before, behind) ↔ cs = before ++ sep :: behind ∧ sep ∉ behind := by
  constructor
  · intro h
    induction cs generalizing before with
    | nil => simp [splitLast?] at h
    | cons c r ih =>
        rw [splitLast?] at h
        cases hr : splitLast? sep r with
        | some cut =>
            rw [hr] at h
            obtain ⟨rfl, rfl⟩ := Prod.mk.inj (Option.some.inj h)
            obtain ⟨hcut, hlast⟩ := ih hr
            exact ⟨congrArg (c :: ·) hcut, hlast⟩
        | none =>
            rw [hr] at h
            dsimp only at h
            split at h
            case isTrue hc =>
              obtain ⟨rfl, rfl⟩ := Prod.mk.inj (Option.some.inj h)
              exact ⟨congrArg (· :: r) hc, splitLast?_eq_none_iff.mp hr⟩
            case isFalse _ => cases h
  · rintro ⟨rfl, hlast⟩
    exact splitLast?_append hlast before

end Herald.Text
