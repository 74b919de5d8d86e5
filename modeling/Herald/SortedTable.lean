import Herald.Table

/-!
# Sorted tables

A finite map kept as a list of bindings in strictly ascending order of their keys, so
that no key is bound twice. The order is part of the type, and it leaves one way to
write a map down: tables that answer alike are the same table.
-/

namespace Herald

/-- Bindings, in strictly ascending order of their keys. -/
structure SortedTable (κ α : Type) [LT κ] where
  bindings : Table κ α
  ascending : bindings.Pairwise fun a b => a.1 < b.1
deriving DecidableEq

namespace SortedTable

section

variable {κ α : Type} [LT κ]

/-- No bindings at all. -/
def empty : SortedTable κ α := ⟨[], .nil⟩

/-- How many bindings there are. -/
def size (t : SortedTable κ α) : Nat := t.bindings.length

variable [DecidableEq κ]

/-- The value bound to `k`. -/
def get? (t : SortedTable κ α) (k : κ) : Option α := Table.get? t.bindings k

@[simp] theorem get?_empty (k : κ) : (empty : SortedTable κ α).get? k = none := rfl

/-- A binding put at its place in a list that ascends, over the one that is there. -/
def insertSorted [DecidableLT κ] (k : κ) (v : α) : Table κ α → Table κ α
  | [] => [(k, v)]
  | (k', v') :: t =>
    if k < k' then (k, v) :: (k', v') :: t
    else if k = k' then (k, v) :: t
    else (k', v') :: insertSorted k v t

theorem get?_insertSorted [DecidableLT κ] (k : κ) (v : α) (t : Table κ α) (k' : κ) :
    Table.get? (insertSorted k v t) k' = if k = k' then some v else Table.get? t k' := by
  induction t with
  | nil => rfl
  | cons b t ih =>
      obtain ⟨k₀, v₀⟩ := b
      rw [insertSorted]
      split
      case isTrue => rfl
      case isFalse =>
        split
        case isTrue heq =>
          subst heq
          by_cases hk : k = k' <;> simp [Table.get?, hk]
        case isFalse hne =>
          rw [Table.get?, ih, Table.get?]
          by_cases hk : k₀ = k'
          · subst hk
            simp [hne]
          · simp [hk]

theorem eq_or_mem_of_mem_insertSorted [DecidableLT κ] {k : κ} {v : α} {b : κ × α}
    {t : Table κ α} (h : b ∈ insertSorted k v t) : b = (k, v) ∨ b ∈ t := by
  induction t with
  | nil => exact .inl (List.mem_singleton.mp h)
  | cons b₀ t ih =>
      rw [insertSorted] at h
      split at h
      case isTrue => exact List.mem_cons.mp h
      case isFalse =>
        split at h
        case isTrue => exact (List.mem_cons.mp h).imp_right (List.mem_cons_of_mem _)
        case isFalse =>
          rcases List.mem_cons.mp h with rfl | h
          · exact .inr List.mem_cons_self
          · exact (ih h).imp_right (List.mem_cons_of_mem _)

end

variable {κ α : Type} [LE κ] [LT κ] [Std.LawfulOrderLT κ]

/-- No key is bound twice. -/
theorem nodup_keys (t : SortedTable κ α) : (t.bindings.map Prod.fst).Nodup :=
  List.pairwise_map.mpr (t.ascending.imp fun h => Std.ne_of_lt h)

theorem nodup_bindings (t : SortedTable κ α) : t.bindings.Nodup :=
  t.ascending.imp fun h he => Std.ne_of_lt h (congrArg Prod.fst he)

variable [DecidableEq κ] {t u : SortedTable κ α} {k : κ} {v : α}

/-- **A table answers with its bindings.** -/
theorem get?_eq_some_iff : t.get? k = some v ↔ (k, v) ∈ t.bindings :=
  ⟨Table.mem_of_get?, Table.get?_of_mem t.nodup_keys⟩

variable [Std.IsLinearOrder κ]

/-- **Tables that answer alike are the same.** -/
theorem ext_get? (h : ∀ k, t.get? k = u.get? k) : t = u := by
  have hmem : ∀ b, b ∈ t.bindings ↔ b ∈ u.bindings := fun b => by
    rw [← get?_eq_some_iff, h, get?_eq_some_iff]
  have hperm : t.bindings.Perm u.bindings :=
    (List.perm_ext_iff_of_nodup t.nodup_bindings u.nodup_bindings).mpr hmem
  have hbindings : t.bindings = u.bindings :=
    hperm.eq_of_pairwise (fun a b _ _ hab hba => absurd (Std.lt_trans hab hba) Std.lt_irrefl)
      t.ascending u.ascending
  cases t
  cases u
  exact (SortedTable.mk.injEq ..).mpr hbindings

theorem pairwise_insertSorted [DecidableLT κ] {t : Table κ α}
    (h : t.Pairwise fun a b => a.1 < b.1) (k : κ) (v : α) :
    (insertSorted k v t).Pairwise fun a b => a.1 < b.1 := by
  induction t with
  | nil => exact List.pairwise_singleton _ _
  | cons b t ih =>
      have hcons := List.pairwise_cons.mp h
      rw [insertSorted]
      split
      case isTrue hlt =>
        refine List.pairwise_cons.mpr ⟨fun c hc => ?_, h⟩
        rcases List.mem_cons.mp hc with rfl | hc
        · exact hlt
        · exact Std.lt_trans hlt (hcons.1 c hc)
      case isFalse hlt =>
        split
        case isTrue heq => exact List.pairwise_cons.mpr ⟨heq ▸ hcons.1, hcons.2⟩
        case isFalse hne =>
          have hbelow : b.1 < k := Std.lt_of_le_of_ne (Std.not_lt.mp hlt) (Ne.symm hne)
          refine List.pairwise_cons.mpr ⟨fun c hc => ?_, ih hcons.2⟩
          rcases eq_or_mem_of_mem_insertSorted hc with rfl | hc
          · exact hbelow
          · exact hcons.1 c hc

/-- Binds `k` to `v`, whatever it was bound to before. -/
def insert [DecidableLT κ] (t : SortedTable κ α) (k : κ) (v : α) : SortedTable κ α :=
  ⟨insertSorted k v t.bindings, pairwise_insertSorted t.ascending k v⟩

theorem get?_insert [DecidableLT κ] (t : SortedTable κ α) (k : κ) (v : α) (k' : κ) :
    (t.insert k v).get? k' = if k = k' then some v else t.get? k' :=
  get?_insertSorted k v t.bindings k'

end SortedTable

end Herald
