import Herald.Proofs.Caller.Resolution

/-!
# Skipping more

A locator can be told of further sources and modules to skip. They are added to the
core, and the core does two things in a walk: its symbols are passed over, and the first
of them ends what is the walker's own. Passing over more symbols only moves the caller
outwards. But an entry that matches a symbol of the walker's own has the core begin
there, and then the walker's next symbol is reported.

So the caller is found where it was or further out, unless it is one of the walker's own
symbols, those that nothing of the smaller core comes before; and that happens exactly
if one of them qualifies with the larger core.
-/

namespace Herald

namespace Symbol

variable {core : Core} {s : Symbol}

theorem isCore_skipSource (core : Core) (path : String) (s : Symbol) :
    s.isCore (core.skipSource path)
      = (s.isCore core || s.file.any fun file => Path.endsWith file path) := by
  obtain ⟨file, line, function⟩ := s
  cases file with
  | some file => simp [isCore, Core.skipSource]
  | none => cases function <;> simp [isCore, Core.skipSource]

theorem isCore_skipModule (core : Core) (module : String) (s : Symbol) :
    s.isCore (core.skipModule module)
      = (s.isCore core
        || s.file.isNone && s.function.any fun function => inModule function module) := by
  obtain ⟨file, line, function⟩ := s
  cases file with
  | some file => simp [isCore, Core.skipModule]
  | none => cases function <;> simp [isCore, Core.skipModule]

end Symbol

/-- A core with one more source or one more module. -/
inductive Core.Adds (core : Core) : Core → Prop where
  | source (path : String) : Adds core (core.skipSource path)
  | module (module : String) : Adds core (core.skipModule module)

theorem Core.Adds.isCore {core core' : Core} (h : core.Adds core') {s : Symbol}
    (hs : s.isCore core = true) : s.isCore core' = true := by
  cases h with
  | source path => rw [Symbol.isCore_skipSource, hs, Bool.true_or]
  | module module => rw [Symbol.isCore_skipModule, hs, Bool.true_or]

namespace Caller

/-- The walk ends at this position. -/
def FindsAt (core : Core) (stack : List Symbol) (i : Nat) : Prop :=
  i < stack.length ∧ outward? core false stack = some (stack.drop i)

/-- The symbol here is the walker's own: the core begins further out. -/
structure IsWalkers (core : Core) (stack : List Symbol) (j : Nat) : Prop where
  there : j < stack.length
  inside : ∀ c ∈ stack.take (j + 1), c.isCore core = false

instance {core : Core} {stack : List Symbol} {j : Nat} : Decidable (IsWalkers core stack j) :=
  decidable_of_iff (j < stack.length ∧ ∀ c ∈ stack.take (j + 1), c.isCore core = false)
    ⟨fun h => ⟨h.1, h.2⟩, fun h => ⟨h.there, h.inside⟩⟩

instance {core : Core} {stack : List Symbol} {i : Nat} : Decidable (FindsAt core stack i) :=
  inferInstanceAs (Decidable (_ ∧ _))

variable {core core' : Core} {stack : List Symbol} {s s' c : Symbol} {i j : Nat}

theorem IsCaller.lt_length {entered : Bool} (h : IsCaller core entered stack i s) :
    i < stack.length :=
  (List.getElem?_eq_some_iff.mp h.there).1

theorem findsAt_iff : FindsAt core stack i ↔ ∃ s, IsCaller core false stack i s := by
  constructor
  · rintro ⟨hi, hfound⟩
    obtain ⟨k, s, h, hdrop⟩ := outward?_eq_some_iff.mp hfound
    have hlength := congrArg List.length hdrop
    rw [List.length_drop, List.length_drop] at hlength
    have hk := h.lt_length
    obtain rfl : i = k := by omega
    exact ⟨s, h⟩
  · rintro ⟨s, h⟩
    exact ⟨h.lt_length, outward?_eq_some_iff.mpr ⟨i, s, h, rfl⟩⟩

/-- What comes before a symbol of the walker's own is the walker's own. -/
theorem IsWalkers.exists_of_mem (hw : IsWalkers core stack j) (hc : c ∈ stack.take j) :
    ∃ k, stack[k]? = some c ∧ IsWalkers core stack k := by
  obtain ⟨k, hk, hget⟩ := List.mem_take_iff_getElem.mp hc
  have hle : k + 1 ≤ j + 1 := by omega
  refine ⟨k, List.getElem?_eq_some_iff.mpr ⟨by omega, hget⟩, by omega, fun a ha => ?_⟩
  exact hw.inside a ((List.take_prefix_take_left hle).subset ha)

/-- The walker's own symbols are further in than the caller. -/
theorem IsWalkers.lt (hw : IsWalkers core stack j) (h : IsCaller core false stack i s) :
    j < i := by
  obtain hentered | ⟨c, hc, hcore⟩ := h.behind
  · cases hentered
  · refine Nat.lt_of_not_le fun hle => ?_
    have hmem := (List.take_prefix_take_left (l := stack) (Nat.le_succ_of_le hle)).subset hc
    rw [hw.inside c hmem] at hcore
    cases hcore

/-- **What is found with a larger core is the walker's own or no further in than before.** -/
theorem IsCaller.le_iff (h : IsCaller core false stack i s) (hadds : core.Adds core')
    (h' : IsCaller core' false stack j s') : i ≤ j ↔ ¬IsWalkers core stack j := by
  constructor
  · exact fun hle hw => absurd (hw.lt h) (Nat.not_lt.mpr hle)
  · intro hnot
    refine Nat.le_of_not_lt fun hlt => hnot ⟨h'.lt_length, fun c hc => ?_⟩
    rw [Bool.eq_false_iff]
    intro hcore
    have houtside : s'.isCore core = false := by
      rw [Bool.eq_false_iff]
      intro hs'
      exact absurd (hadds.isCore hs') (by rw [h'.outside]; simp)
    -- `c` is core and so not the symbol itself: it comes before, and the walk ended here before
    rw [List.take_add_one, List.mem_append, h'.there, Option.mem_toList] at hc
    obtain hbefore | hself := hc
    · exact h.first j hlt s' ⟨h'.there, houtside, h'.named, .inr ⟨c, hbefore, hcore⟩⟩
    · obtain rfl := Option.some.inj hself
      rw [houtside] at hcore
      cases hcore

/--
**Skipping more moves the caller outwards, unless it reports the walker.**

One source or one module is added to a core with which the walk ends at `i`. Where it
ends with the larger core, it ends at `i` or further out if and only if the symbol there
is not the walker's own: it or some symbol before it is of the smaller core. The walk
ends further in exactly if a symbol of the walker's own qualifies with the larger core,
and it never does if the new entry matches nothing of the walker's own.
-/
theorem skipping_moves_outward_iff {frames : List (List Symbol)} (hadds : core.Adds core')
    (h : FindsAt core frames.flatten i) :
    (∀ j, FindsAt core' frames.flatten j → (i ≤ j ↔ ¬IsWalkers core frames.flatten j))
      ∧ ((∃ j < i, FindsAt core' frames.flatten j)
          ↔ ∃ j s, IsWalkers core frames.flatten j ∧ Qualifies core' false frames.flatten j s)
      ∧ ((∀ j s, IsWalkers core frames.flatten j → frames.flatten[j]? = some s →
            s.isCore core' = false) →
          ∀ j, FindsAt core' frames.flatten j → i ≤ j) := by
  obtain ⟨s, h⟩ := findsAt_iff.mp h
  have hmoves : ∀ j, FindsAt core' frames.flatten j →
      (i ≤ j ↔ ¬IsWalkers core frames.flatten j) := by
    intro j hj
    obtain ⟨s', h'⟩ := findsAt_iff.mp hj
    exact h.le_iff hadds h'
  refine ⟨hmoves, ⟨?_, ?_⟩, ?_⟩
  · rintro ⟨j, hlt, hj⟩
    obtain ⟨s', h'⟩ := findsAt_iff.mp hj
    have hw := mt (hmoves j hj).mpr (Nat.not_le.mpr hlt)
    exact ⟨j, s', Decidable.not_not.mp hw, h'.toQualifies⟩
  · rintro ⟨j, s', hw, hqualifies⟩
    -- the one that is found is at `j` or before
    obtain ⟨k, s'', h'⟩ := exists_isCaller hqualifies
    have hle : k ≤ j := Nat.le_of_not_lt fun hlt => h'.first j hlt s' hqualifies
    exact ⟨k, Nat.lt_of_le_of_lt hle (hw.lt h), findsAt_iff.mpr ⟨s'', h'⟩⟩
  · intro hnone j hj
    refine (hmoves j hj).mpr fun hw => ?_
    -- with the larger core too there is a core symbol before `j`, one of the walker's own
    obtain ⟨s', h'⟩ := findsAt_iff.mp hj
    obtain hentered | ⟨c, hc, hcore⟩ := h'.behind
    · cases hentered
    · obtain ⟨k, hget, hk⟩ := hw.exists_of_mem hc
      rw [hnone k c hk hget] at hcore
      cases hcore

/-- The walker with a source of its own in a `mod.rs`, the library, a facade, and its caller. -/
def facadeFrames : List (List Symbol) :=
  [[{ file := some "/r/backtrace-0.3.71/src/backtrace/mod.rs", line := 66,
      function := some "backtrace::backtrace::trace" }],
    [{ file := some "/r/backtrace-0.3.71/src/capture.rs", line := 197,
       function := some "backtrace::capture::Backtrace::new" }],
    [{ file := some "/w/tidings-core/src/caller.rs", line := 93,
       function := some "tidings_core::caller::resolve" }],
    [{ file := some "/srv/app/src/logging/mod.rs", line := 12,
       function := some "app::logging::lost" }],
    [{ file := some "/srv/app/src/feed.rs", line := 40,
       function := some "app::feed::reconnect" }]]

/-- The facade as `logging/mod.rs` moves the caller outwards; as `mod.rs` it has the walker reported. -/
theorem skipping_moves_outward_iff_facadeFrames :
    FindsAt Core.library facadeFrames.flatten 3
      ∧ FindsAt (Core.library.skipSource "logging/mod.rs") facadeFrames.flatten 4
      ∧ ¬IsWalkers Core.library facadeFrames.flatten 4
      ∧ FindsAt (Core.library.skipSource "mod.rs") facadeFrames.flatten 1
      ∧ IsWalkers Core.library facadeFrames.flatten 1 := by
  have hlibrary : FindsAt Core.library facadeFrames.flatten 3 := by decide +kernel
  have hnarrow : FindsAt (Core.library.skipSource "logging/mod.rs") facadeFrames.flatten 4 := by
    decide +kernel
  have hwide : FindsAt (Core.library.skipSource "mod.rs") facadeFrames.flatten 1 := by
    decide +kernel
  refine ⟨hlibrary, hnarrow, ?_, hwide, ?_⟩
  · exact ((skipping_moves_outward_iff (.source "logging/mod.rs") hlibrary).1 4 hnarrow).mp
      (by decide)
  · have hin := mt ((skipping_moves_outward_iff (.source "mod.rs") hlibrary).1 1 hwide).mpr
      (by decide)
    exact Decidable.not_not.mp hin

end Caller

end Herald
