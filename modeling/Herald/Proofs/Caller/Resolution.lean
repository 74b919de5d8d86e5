import Herald.Caller

/-!
# Which symbol is the caller

The caller is the first symbol, from the innermost outwards, that is outside the core,
has something to be reported by, and comes after a symbol of the core. `Qualifies` says
this of a position without a walk, and the walk ends at the least position that
qualifies. So what comes before the core is never reported, nor is the core itself,
also where it is entered once more further out.
-/

namespace Herald

/-- A path is matched by its last components. -/
theorem Path.endsWith_iff {path suffix : String} :
    endsWith path suffix = true ↔ components suffix.toList <:+ components path.toList :=
  List.isSuffixOf_iff_suffix

/-- With a file its path decides, and without one the function does. -/
theorem Symbol.isCore_iff {core : Core} {s : Symbol} :
    s.isCore core = true ↔
      (∃ file, s.file = some file
          ∧ ∃ source ∈ core.sources, Path.components source.toList <:+ Path.components file.toList)
        ∨ s.file = none ∧ ∃ function, s.function = some function
          ∧ ∃ module ∈ core.modules,
              module.toList ++ [':', ':'] <+: function.toList.dropWhile (· = '<') := by
  obtain ⟨file, line, function⟩ := s
  cases file with
  | some file => simp [isCore, Path.endsWith_iff]
  | none => cases function <;> simp [isCore, inModule]

namespace Caller

/-- A symbol that may be the caller; `entered` says whether the core was met before the stack. -/
structure Qualifies (core : Core) (entered : Bool) (stack : List Symbol) (i : Nat) (s : Symbol) :
    Prop where
  there : stack[i]? = some s
  outside : s.isCore core = false
  named : s.isNamed = true
  behind : entered = true ∨ ∃ c ∈ stack.take i, c.isCore core = true

/-- It is the first one that may be. -/
structure IsCaller (core : Core) (entered : Bool) (stack : List Symbol) (i : Nat) (s : Symbol) :
    Prop extends Qualifies core entered stack i s where
  first : ∀ j < i, ∀ s', ¬Qualifies core entered stack j s'

section

variable {core : Core} {entered : Bool} {stack rest : List Symbol} {s s' a : Symbol} {i j : Nat}

theorem qualifies_cons_zero :
    Qualifies core entered (a :: rest) 0 s
      ↔ a = s ∧ a.isCore core = false ∧ a.isNamed = true ∧ entered = true := by
  constructor
  · intro h
    obtain rfl : a = s := Option.some.inj h.there
    exact ⟨rfl, h.outside, h.named, by simpa using h.behind⟩
  · rintro ⟨rfl, houtside, hnamed, hentered⟩
    exact ⟨rfl, houtside, hnamed, .inl hentered⟩

/-- One symbol further out the core has been met if it was before or is met here. -/
theorem qualifies_cons_succ :
    Qualifies core entered (a :: rest) (i + 1) s
      ↔ Qualifies core (entered || a.isCore core) rest i s := by
  have hbehind : (entered = true ∨ ∃ c ∈ (a :: rest).take (i + 1), c.isCore core = true)
      ↔ ((entered || a.isCore core) = true ∨ ∃ c ∈ rest.take i, c.isCore core = true) := by
    rw [List.take_succ_cons, Bool.or_eq_true, or_assoc]
    simp only [List.mem_cons, exists_eq_or_imp]
  constructor
  · intro h
    exact ⟨h.there, h.outside, h.named, hbehind.mp h.behind⟩
  · intro h
    exact ⟨h.there, h.outside, h.named, hbehind.mpr h.behind⟩

theorem isCaller_cons_succ (hzero : ∀ s, ¬Qualifies core entered (a :: rest) 0 s) :
    IsCaller core entered (a :: rest) (i + 1) s
      ↔ IsCaller core (entered || a.isCore core) rest i s := by
  constructor
  · intro h
    refine ⟨qualifies_cons_succ.mp h.toQualifies, fun j hj s' hs' => ?_⟩
    exact h.first (j + 1) (Nat.succ_lt_succ hj) s' (qualifies_cons_succ.mpr hs')
  · intro h
    refine ⟨qualifies_cons_succ.mpr h.toQualifies, fun j hj s' hs' => ?_⟩
    cases j with
    | zero => exact hzero s' hs'
    | succ j => exact h.first j (Nat.lt_of_succ_lt_succ hj) s' (qualifies_cons_succ.mp hs')

theorem IsCaller.unique (h : IsCaller core entered stack i s)
    (h' : IsCaller core entered stack j s') : i = j ∧ s = s' := by
  have hle : ∀ {i j s s'}, IsCaller core entered stack i s → IsCaller core entered stack j s' →
      i ≤ j := fun h h' => Nat.le_of_not_lt fun hlt => h.first _ hlt _ h'.toQualifies
  obtain rfl : i = j := Nat.le_antisymm (hle h h') (hle h' h)
  exact ⟨rfl, Option.some.inj (h.there.symm.trans h'.there)⟩

/-- **The walk finds the caller and everything further out, if there is one.** -/
theorem outward?_eq_some_iff {found : List Symbol} :
    outward? core entered stack = some found
      ↔ ∃ i s, IsCaller core entered stack i s ∧ found = stack.drop i := by
  induction stack generalizing entered with
  | nil =>
      refine ⟨(nomatch ·), ?_⟩
      rintro ⟨i, s, h, -⟩
      cases h.there
  | cons a rest ih =>
      rw [outward?]
      by_cases hhere : Qualifies core entered (a :: rest) 0 a
      · -- the walk ends here, and no position is before this one
        obtain ⟨-, houtside, hnamed, hentered⟩ := qualifies_cons_zero.mp hhere
        have hcaller : IsCaller core entered (a :: rest) 0 a :=
          ⟨hhere, fun j hj => absurd hj (Nat.not_lt_zero j)⟩
        rw [if_neg (by rw [houtside]; simp), if_pos (by rw [hentered, hnamed]; rfl)]
        constructor
        · rintro ⟨⟩
          exact ⟨0, a, hcaller, rfl⟩
        · rintro ⟨i, s, h, rfl⟩
          obtain ⟨rfl, -⟩ := hcaller.unique h
          rfl
      · have hzero : ∀ s, ¬Qualifies core entered (a :: rest) 0 s := by
          intro s hs
          obtain rfl := (qualifies_cons_zero.mp hs).1
          exact hhere hs
        have hwalk : (if a.isCore core then outward? core true rest
              else if entered && a.isNamed then some (a :: rest) else outward? core entered rest)
            = outward? core (entered || a.isCore core) rest := by
          cases hcore : a.isCore core with
          | true => rw [if_pos rfl, Bool.or_true]
          | false =>
              have hstop : ¬(entered && a.isNamed) = true := by
                rw [Bool.and_eq_true]
                exact fun h => hhere (qualifies_cons_zero.mpr ⟨rfl, hcore, h.2, h.1⟩)
              rw [if_neg (by simp), if_neg hstop, Bool.or_false]
        rw [hwalk, ih]
        constructor
        · rintro ⟨i, s, h, rfl⟩
          exact ⟨i + 1, s, (isCaller_cons_succ hzero).mpr h, rfl⟩
        · rintro ⟨i, s, h, rfl⟩
          cases i with
          | zero => exact absurd h.toQualifies (hzero s)
          | succ i => exact ⟨i, s, (isCaller_cons_succ hzero).mp h, rfl⟩

theorem exists_isCaller (h : Qualifies core entered stack i s) :
    ∃ j s', IsCaller core entered stack j s' := by
  induction i using Nat.strongRecOn generalizing s with
  | ind i ih =>
      by_cases hfirst : ∃ j, j < i ∧ ∃ s', Qualifies core entered stack j s'
      · obtain ⟨j, hj, s', hs'⟩ := hfirst
        exact ih j hj hs'
      · exact ⟨i, s, h, fun j hj s' hs' => hfirst ⟨j, hj, s', hs'⟩⟩

/-! ## The location that is reported -/

/-- The rendered stack ends with the symbol that it begins with. -/
theorem renderStack_cons (s : Symbol) (rest : List Symbol) :
    renderStack (s :: rest)
      = "Stack (most recent call last):" ++ String.join (rest.reverse.map renderEntry)
        ++ renderEntry s := by
  unfold renderStack
  -- how an entry looks does not matter here
  generalize renderEntry = entry
  rw [List.reverse_cons, List.map_append, String.join_append, String.append_assoc]
  simp

theorem resolve_of_isCaller (h : IsCaller core false stack i s) (capture : Bool) :
    resolve core capture stack
      = { s.location with
          stack := if capture then
              some ("Stack (most recent call last):"
                ++ String.join ((stack.drop (i + 1)).reverse.map renderEntry) ++ renderEntry s)
            else none } := by
  have hfound := outward?_eq_some_iff.mpr ⟨i, s, h, rfl⟩
  obtain ⟨hlt, hget⟩ := List.getElem?_eq_some_iff.mp h.there
  rw [List.drop_eq_getElem_cons hlt, hget] at hfound
  unfold resolve
  rw [hfound]
  dsimp only
  rw [renderStack_cons]

theorem resolve_of_not_qualifies (h : ¬∃ i s, Qualifies core false stack i s) (capture : Bool) :
    resolve core capture stack = Location.unknown := by
  have hnone : outward? core false stack = none := by
    cases hfound : outward? core false stack with
    | none => rfl
    | some found =>
        obtain ⟨i, s, hcaller, -⟩ := outward?_eq_some_iff.mp hfound
        exact absurd ⟨i, s, hcaller.toQualifies⟩ h
  unfold resolve
  rw [hnone]

end

/--
**The location that is reported is that of the first symbol beyond the core.**

Of the symbols of all frames, in order, some may be the caller: those outside the core
that have a file or a function and some core symbol before them. The first of them is
reported. With the stack wanted, its text is the header and one entry for every symbol
from the outermost in to the caller, which is the last one. The sentinel is reported when
no symbol may be the caller, and else only if no stack is wanted and the caller's own
file, line and function are those of the sentinel.
-/
theorem resolve_caller (core : Core) (capture : Bool) (frames : List (List Symbol)) :
    (∀ i s, IsCaller core false frames.flatten i s →
        resolve core capture frames.flatten
          = { s.location with
              stack := if capture then
                  some ("Stack (most recent call last):"
                    ++ String.join ((frames.flatten.drop (i + 1)).reverse.map renderEntry)
                    ++ renderEntry s)
                else none })
      ∧ ((∃ i s, Qualifies core false frames.flatten i s)
          → ∃ i s, IsCaller core false frames.flatten i s)
      ∧ (resolve core capture frames.flatten = Location.unknown
          ↔ (¬∃ i s, Qualifies core false frames.flatten i s)
            ∨ capture = false ∧ ∃ i s, IsCaller core false frames.flatten i s
                ∧ s.location = Location.unknown)
      ∧ ∀ s : Symbol, s.isCore core = true ↔
          (∃ file, s.file = some file ∧ ∃ source ∈ core.sources,
              Path.components source.toList <:+ Path.components file.toList)
            ∨ s.file = none ∧ ∃ function, s.function = some function ∧ ∃ module ∈ core.modules,
                module.toList ++ [':', ':'] <+: function.toList.dropWhile (· = '<') := by
  have hexists : (∃ i s, Qualifies core false frames.flatten i s)
      → ∃ i s, IsCaller core false frames.flatten i s :=
    fun ⟨_, _, h⟩ => exists_isCaller h
  refine ⟨fun i s h => resolve_of_isCaller h capture, hexists, ⟨fun hunknown => ?_, ?_⟩,
    fun s => Symbol.isCore_iff⟩
  · by_cases hany : ∃ i s, Qualifies core false frames.flatten i s
    · obtain ⟨i, s, hcaller⟩ := hexists hany
      rw [resolve_of_isCaller hcaller capture] at hunknown
      cases capture with
      | true => exact absurd (congrArg Location.stack hunknown) (by simp [Location.unknown])
      | false => exact .inr ⟨rfl, i, s, hcaller, hunknown⟩
    · exact .inl hany
  · rintro (hnone | ⟨rfl, i, s, hcaller, hlocation⟩)
    · exact resolve_of_not_qualifies hnone capture
    · rw [resolve_of_isCaller hcaller false]
      exact hlocation

/-- The walker itself, the library with a symbol that nothing is known of, and an application. -/
def nestedFrames : List (List Symbol) :=
  [[{ file := some "backtrace/src/lib.rs", line := 3, function := some "trace" }],
    [{ file := some "/b/tidings-core/./src/logger.rs", line := 9, function := none },
      { file := none, function := none }],
    [],
    [{ file := none, function := some "app::tidings_core::logger::run" },
      { file := none, function := some "<tidings_core::logger::L as T>::f" }]]

/-- The application calls the library, which is met once more further out. -/
theorem resolve_caller_nestedFrames :
    resolve Core.library true nestedFrames.flatten
      = { file := Location.unknownFile
          line := 0
          function := "app::tidings_core::logger::run"
          stack := some ("Stack (most recent call last):"
            ++ "\n  <tidings_core::logger::L as T>::f\n    at (unknown file):0"
            ++ "\n  app::tidings_core::logger::run\n    at (unknown file):0") } := by
  have hqualifies : Qualifies Core.library false nestedFrames.flatten 3
      { file := none, function := some "app::tidings_core::logger::run" } :=
    ⟨rfl, by decide +kernel, rfl,
      .inr ⟨_, List.mem_cons_of_mem _ List.mem_cons_self, by decide +kernel⟩⟩
  have hcaller : IsCaller Core.library false nestedFrames.flatten 3
      { file := none, function := some "app::tidings_core::logger::run" } := by
    refine ⟨hqualifies, fun j hj s' hs' => ?_⟩
    match j, hj with
    | 0, _ => simpa using hs'.behind
    | 1, _ =>
        obtain rfl := Option.some.inj hs'.there
        exact absurd hs'.outside (by decide +kernel)
    | 2, _ =>
        obtain rfl := Option.some.inj hs'.there
        exact absurd hs'.named (by decide)
  rw [(resolve_caller Core.library true nestedFrames).1 3 _ hcaller]
  decide +kernel

/-- A symbol that reads like the sentinel, called by the library. -/
def disguised : List (List Symbol) :=
  [[{ file := none, function := some "tidings_core::logger::f" }],
    [{ file := none, function := some Location.unknownFunction }]]

/-- There is a caller, and still the sentinel is reported. -/
theorem resolve_disguised :
    ¬(resolve Core.library false disguised.flatten = Location.unknown
      ↔ ¬∃ i s, Qualifies Core.library false disguised.flatten i s) := by
  have hcaller : Qualifies Core.library false disguised.flatten 1
      { file := none, function := some Location.unknownFunction } :=
    ⟨rfl, by decide +kernel, rfl, .inr ⟨_, List.mem_cons_self, by decide +kernel⟩⟩
  have hunknown : resolve Core.library false disguised.flatten = Location.unknown := by
    decide +kernel
  intro h
  exact h.mp hunknown ⟨1, _, hcaller⟩

end Caller

end Herald
