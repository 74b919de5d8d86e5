/-!
# Tables

A finite map kept as a list of bindings in the order in which the keys first
appeared. Rebinding a key keeps its place, so the order is that of first
insertion. `get?` is the view: a table is known by what it answers.
-/

namespace Herald

/-- Bindings, one per key. -/
abbrev Table (κ α : Type) := List (κ × α)

namespace Table

variable {κ α : Type} [DecidableEq κ]

/-- The value bound to `k`. -/
def get? : Table κ α → κ → Option α
  | [], _ => none
  | (k', v) :: t, k => if k' = k then some v else get? t k

/-- Binds `k` to `v`, in place if it was bound before. -/
def set : Table κ α → κ → α → Table κ α
  | [], k, v => [(k, v)]
  | (k', v') :: t, k, v => if k' = k then (k, v) :: t else (k', v') :: set t k v

/-- Removes every binding of `k`. -/
def erase (t : Table κ α) (k : κ) : Table κ α := t.filter fun b => b.1 ≠ k

@[simp] theorem get?_nil (k : κ) : get? ([] : Table κ α) k = none := rfl

theorem get?_set (t : Table κ α) (k k' : κ) (v : α) :
    get? (set t k v) k' = if k = k' then some v else get? t k' := by
  induction t with
  | nil => simp [set, get?]
  | cons b t ih =>
      obtain ⟨k₀, v₀⟩ := b
      by_cases h : k₀ = k
      · subst h
        by_cases h' : k₀ = k' <;> simp [set, get?, h']
      · by_cases h' : k₀ = k'
        · subst h'
          simp [set, get?, h, Ne.symm h]
        · simp [set, get?, h, h', ih]

/-- What is found is there. -/
theorem mem_of_get? {t : Table κ α} {k : κ} {v : α} (h : get? t k = some v) : (k, v) ∈ t := by
  induction t with
  | nil => cases h
  | cons b t ih =>
      obtain ⟨k₀, v₀⟩ := b
      by_cases hk : k₀ = k
      · rw [get?, if_pos hk] at h
        rw [hk, Option.some.inj h]
        exact List.mem_cons_self
      · rw [get?, if_neg hk] at h
        exact List.mem_cons_of_mem _ (ih h)

/-- What is there is found, if no key is bound twice. -/
theorem get?_of_mem {t : Table κ α} {k : κ} {v : α} (h : (t.map Prod.fst).Nodup)
    (hmem : (k, v) ∈ t) : get? t k = some v := by
  induction t with
  | nil => cases hmem
  | cons b t ih =>
      obtain ⟨k₀, v₀⟩ := b
      obtain ⟨hnew, hnodup⟩ := List.nodup_cons.mp h
      rcases List.mem_cons.mp hmem with heq | hmem
      · obtain ⟨rfl, rfl⟩ := Prod.mk.inj heq
        exact if_pos rfl
      · have hne : k₀ ≠ k := fun he => hnew (List.mem_map.mpr ⟨_, hmem, he.symm⟩)
        rw [get?, if_neg hne]
        exact ih hnodup hmem

/-- Only the new binding was not there before. -/
theorem eq_or_mem_of_mem_set {t : Table κ α} {k : κ} {v : α} {b : κ × α} (h : b ∈ set t k v) :
    b = (k, v) ∨ b ∈ t := by
  induction t with
  | nil => exact .inl (List.mem_singleton.mp h)
  | cons b₀ t ih =>
      obtain ⟨k₀, v₀⟩ := b₀
      rw [set] at h
      split at h
      case isTrue _ => exact (List.mem_cons.mp h).imp_right (List.mem_cons_of_mem _)
      case isFalse _ =>
        rcases List.mem_cons.mp h with rfl | h
        · exact .inr List.mem_cons_self
        · exact (ih h).imp_right (List.mem_cons_of_mem _)

/-- Of two values for one key the later counts. -/
theorem set_set (t : Table κ α) (k : κ) (v v' : α) : set (set t k v) k v' = set t k v' := by
  induction t with
  | nil => simp [set]
  | cons b t ih =>
      obtain ⟨k₀, v₀⟩ := b
      by_cases hk : k₀ = k
      · simp [set, hk]
      · simp [set, hk, ih]

/-- Binding a key puts it behind the others if it is new, and leaves it where it is if not. -/
theorem keys_set (t : Table κ α) (k : κ) (v : α) :
    (set t k v).map Prod.fst
      = if k ∈ t.map Prod.fst then t.map Prod.fst else t.map Prod.fst ++ [k] := by
  induction t with
  | nil => rfl
  | cons b t ih =>
      obtain ⟨k₀, v₀⟩ := b
      by_cases hk : k₀ = k
      · simp [set, hk]
      · by_cases hmem : k ∈ t.map Prod.fst
        · rw [if_pos hmem] at ih
          rw [set, if_neg hk, List.map_cons, ih, List.map_cons,
            if_pos (List.mem_cons_of_mem _ hmem)]
        · rw [if_neg hmem] at ih
          have hnew : k ∉ k₀ :: t.map Prod.fst := List.not_mem_cons_of_ne_of_not_mem (Ne.symm hk) hmem
          rw [set, if_neg hk, List.map_cons, ih, List.map_cons, if_neg hnew, List.cons_append]

theorem nodup_keys_set {t : Table κ α} (h : (t.map Prod.fst).Nodup) (k : κ) (v : α) :
    ((set t k v).map Prod.fst).Nodup := by
  rw [keys_set]
  split
  case isTrue => exact h
  case isFalse hnew =>
    refine List.nodup_append.mpr ⟨h, by simp, fun a ha b hb => ?_⟩
    rw [List.mem_singleton.mp hb]
    rintro rfl
    exact hnew ha

theorem get?_erase (t : Table κ α) (k k' : κ) :
    get? (erase t k) k' = if k = k' then none else get? t k' := by
  induction t with
  | nil => simp [erase]
  | cons b t ih =>
      obtain ⟨k₀, v₀⟩ := b
      unfold erase at ih ⊢
      by_cases h : k₀ = k
      · subst h
        by_cases h' : k₀ = k' <;> simp_all [get?]
      · by_cases h' : k₀ = k'
        · subst h'
          simp [get?, h, Ne.symm h]
        · simpa [get?, h, h'] using ih

end Table

end Herald
