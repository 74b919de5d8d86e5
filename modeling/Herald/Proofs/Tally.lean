import Mathlib
import Herald.Level.Registry
import Herald.Metrics

/-!
# Counting under names

A tally finds its counters by digests. What it holds after counting under some names is
therefore said digest by digest: the counter is shown under the first name of that digest
and has the number of all of them. A name has a counter of its own exactly if no other name
of its digest was counted.
-/

namespace Herald

/-- Of two conditions the weaker one holds as often only if it never holds alone. -/
theorem countP_eq_countP_iff {α : Type} {p p' : α → Bool} {es : List α}
    (h : ∀ e ∈ es, p' e = true → p e = true) :
    es.countP p = es.countP p' ↔ ∀ e ∈ es, p e = true → p' e = true := by
  induction es with
  | nil => simp
  | cons e es ih =>
      rw [List.forall_mem_cons] at h
      have hle := List.countP_mono_left h.2
      rw [List.forall_mem_cons, ← ih h.2, List.countP_cons, List.countP_cons]
      cases hp' : p' e with
      | true =>
          rw [h.1 hp']
          simp
      | false =>
          cases hp : p e with
          | false => simp
          | true =>
              simp only [if_true, Bool.false_eq_true, if_false, imp_false, not_true_eq_false,
                false_and, iff_false]
              omega

namespace Tally

theorem count_foldl_bump (names : List String) (t : Tally) (label : String) :
    count (names.foldl bump t) label
      = count t label + names.countP fun name => Text.digest name = Text.digest label := by
  induction names generalizing t with
  | nil => rfl
  | cons name names ih =>
      rw [List.foldl_cons, ih, count_bump, List.countP_cons, Nat.add_assoc]
      simp only [decide_eq_true_eq, Nat.add_comm]

/-- Names are told apart by their digests exactly if none shares the digest of another. -/
theorem countP_digest_eq_count_iff (names : List String) (label : String) :
    (names.countP fun name => Text.digest name = Text.digest label) = names.count label
      ↔ ∀ name ∈ names, Text.digest name = Text.digest label → name = label := by
  rw [List.count, countP_eq_countP_iff]
  · simp only [decide_eq_true_eq, beq_iff_eq]
  · intro name _ hname
    rw [eq_of_beq hname]
    exact decide_eq_true rfl

/-- **The counter of a digest is shown under the first name of that digest and counts them all.** -/
theorem get?_foldl_bump (names : List String) (d : UInt64) :
    Table.get? (names.foldl bump []) d
      = (names.find? fun name => Text.digest name = d).map fun first =>
          ⟨first, names.countP fun name => Text.digest name = d⟩ := by
  induction names using List.reverseRecOn with
  | nil => rfl
  | append_singleton names name ih =>
      rw [List.foldl_append, List.foldl_cons, List.foldl_nil, bump, Table.get?_set,
        List.find?_append, List.countP_append, List.countP_singleton]
      split
      case isTrue hd =>
        rw [hd, ih]
        cases hfirst : names.find? fun name => Text.digest name = d with
        | some first => simp [hd]
        | none =>
            have hzero : names.countP (fun name => Text.digest name = d) = 0 :=
              List.countP_eq_zero.mpr (List.find?_eq_none.mp hfirst)
            simp [hd, hzero]
      case isFalse hd => simp [ih, hd]

theorem nodup_keys_foldl_bump {t : Tally} (h : (t.map Prod.fst).Nodup) (names : List String) :
    ((names.foldl bump t).map Prod.fst).Nodup :=
  List.foldlRecOn (motive := fun t : Tally => (t.map Prod.fst).Nodup) names bump h
    fun _ ht _ _ => Table.nodup_keys_set ht _ _

/-- There is one counter for each name that was the first of its digest. -/
theorem mem_foldl_bump_iff {names : List String} {b : UInt64 × Counter} :
    b ∈ names.foldl bump [] ↔ ∃ first,
      (names.find? fun name => Text.digest name = Text.digest first) = some first
        ∧ b = (Text.digest first,
            ⟨first, names.countP fun name => Text.digest name = Text.digest first⟩) := by
  obtain ⟨d, c⟩ := b
  have hfound : (d, c) ∈ names.foldl bump [] ↔ Table.get? (names.foldl bump []) d = some c :=
    ⟨Table.get?_of_mem (nodup_keys_foldl_bump (t := []) .nil names), Table.mem_of_get?⟩
  rw [hfound, get?_foldl_bump, Option.map_eq_some_iff]
  constructor
  · rintro ⟨first, hfirst, rfl⟩
    obtain rfl : Text.digest first = d := by simpa using List.find?_some hfirst
    exact ⟨first, hfirst, rfl⟩
  · rintro ⟨first, hfirst, hb⟩
    obtain ⟨rfl, rfl⟩ := Prod.mk.inj hb
    exact ⟨first, hfirst, rfl⟩

/-- Everything that is counted, under whatever label. -/
def total : Tally → Nat
  | [] => 0
  | (_, c) :: t => c.count + total t

theorem total_set (t : Tally) (k : UInt64) (label : String) (n : Nat) :
    total (Table.set t k ⟨label, n⟩) + ((Table.get? t k).map Counter.count).getD 0
      = total t + n := by
  induction t with
  | nil => simp [Table.set, Table.get?, total]
  | cons b t ih =>
      obtain ⟨k', c⟩ := b
      rw [Table.set, Table.get?]
      by_cases hk : k' = k
      · rw [if_pos hk, if_pos hk, total, total, Option.map_some, Option.getD_some]
        dsimp only
        omega
      · rw [if_neg hk, if_neg hk, total, total]
        omega

theorem total_bump (t : Tally) (label : String) : total (bump t label) = total t + 1 := by
  unfold bump
  have hset := total_set t (Text.digest label)
  cases hget : Table.get? t (Text.digest label) with
  | none => simpa [hget] using hset label 1
  | some c =>
      have hsum := hset c.label (c.count + 1)
      rw [hget, Option.map_some, Option.getD_some] at hsum
      rw [Option.getD_some]
      dsimp only
      omega

theorem total_foldl_bump (names : List String) (t : Tally) :
    total (names.foldl bump t) = total t + names.length := by
  induction names generalizing t with
  | nil => rfl
  | cons name names ih =>
      rw [List.foldl_cons, ih, total_bump, List.length_cons]
      omega

end Tally

/-! ## What is exposed -/

namespace Metrics

variable {m : Metrics} {names : List String} {f : Family} {name : String}

/-- The counters of records are shown under the first names of their digests. -/
theorem mem_samples_iff (hm : m.records = names.foldl Tally.bump []) (hf : f ∈ m.families)
    (hname : f.name = "tidings_log_records_total") {s : Sample} :
    s ∈ f.samples ↔ ∃ first,
      (names.find? fun name => Text.digest name = Text.digest first) = some first
        ∧ s = ⟨some first,
            exposed (names.countP fun name => Text.digest name = Text.digest first)⟩ := by
  simp only [families, List.mem_filter, List.mem_cons, List.not_mem_nil, or_false] at hf
  obtain ⟨rfl | rfl | rfl | rfl | rfl | rfl, -⟩ := hf
  case inr.inr.inl =>
    change s ∈ m.records.map (fun b => Sample.mk (some b.2.label) (exposed b.2.count)) ↔ _
    rw [hm, List.mem_map]
    simp only [Tally.mem_foldl_bump_iff]
    constructor
    · rintro ⟨b, ⟨first, hfirst, rfl⟩, rfl⟩
      exact ⟨first, hfirst, rfl⟩
    · rintro ⟨first, hfirst, rfl⟩
      exact ⟨_, ⟨first, hfirst, rfl⟩, rfl⟩
  all_goals simp at hname

/-- A name is shown exactly if it was the first of its digest. -/
theorem exists_sample_iff (hm : m.records = names.foldl Tally.bump []) :
    (∃ f ∈ m.families, f.name = "tidings_log_records_total"
        ∧ ∃ s ∈ f.samples, s.label = some name)
      ↔ (names.find? fun n => Text.digest n = Text.digest name) = some name := by
  constructor
  · rintro ⟨f, hf, hname, s, hs, hlabel⟩
    obtain ⟨first, hfirst, rfl⟩ := (mem_samples_iff hm hf hname).mp hs
    obtain rfl := Option.some.inj hlabel
    exact hfirst
  · intro hfirst
    have hmem : (Text.digest name, ⟨name, _⟩) ∈ m.records :=
      hm ▸ Tally.mem_foldl_bump_iff.mpr ⟨name, hfirst, rfl⟩
    refine ⟨_, List.mem_filter.mpr ⟨.tail _ (.tail _ (.head _)), ?_⟩, rfl, _,
      List.mem_map.mpr ⟨_, hmem, rfl⟩, rfl⟩
    -- the metric is not left out, since there is something to show
    rw [Bool.not_eq_true', List.isEmpty_eq_false_iff]
    exact List.ne_nil_of_mem (List.mem_map.mpr ⟨_, hmem, rfl⟩)

end Metrics

/-- The built-in levels and two whose names have one digest. -/
def twinLevels : Registry :=
  (Registry.defaults.withPair "JLMJLLDJJBHFMJHL" ⟨26⟩).withPair "GKGFBGPIHKAAPCCD" ⟨27⟩

end Herald
