import Herald.Level.Registry
import Herald.Proofs.Text.Capitals

/-!
# Names and ranks belong to each other

A registry is asked from two sides, for the rank of a name and for the name of a rank,
and each side has a table of its own. The two are written one after the other and never
checked against each other. Still each is the other one turned round, and every name is
kept in the one form in which it is looked up. That is `Paired`.

It is kept because a registration looks at both tables before it writes to either. It adds
a pair whose name and rank were both free, or it changes nothing (`Registration`). So what
a registry once answers for a name or a rank it answers for good.
-/

namespace Herald

theorem normalizeName_normalizeName (s : String) :
    normalizeName (normalizeName s) = normalizeName s := by
  rw [normalizeName, normalizeName, Text.trim_upperAscii, Text.trim_trim,
    Text.upperAscii_upperAscii]

namespace Registry

variable {r r' : Registry} {l : Level} {n s name : String} {rank : UInt32}

/-! ## Two tables that are each other turned round -/

/-- Each table has what the other has, and names are as they are looked up. -/
structure Paired (r : Registry) : Prop where
  inverse : ∀ n l, r.names.get? n = some l ↔ r.ranks.get? l = some n
  normal : ∀ l n, r.ranks.get? l = some n → n ≠ "" ∧ normalizeName n = n

theorem paired_empty : empty.Paired := ⟨by simp [empty], by simp [empty]⟩

theorem nameOf?_eq_some_iff : r.nameOf? l = some n ↔ (l, n) ∈ r.levels :=
  SortedTable.get?_eq_some_iff

/-- **The two lookups are inverse to each other.** -/
theorem Paired.byName?_iff_nameOf? (h : r.Paired) :
    r.byName? s = some l ↔ r.nameOf? l = some (normalizeName s) :=
  h.inverse (normalizeName s) l

theorem Paired.byName?_eq_some_iff (h : r.Paired) :
    r.byName? s = some l ↔ (l, normalizeName s) ∈ r.levels := by
  rw [h.byName?_iff_nameOf?, nameOf?_eq_some_iff]

/-- Both tables have the same pairs. -/
theorem Paired.perm_levels (h : r.Paired) : r.levels.Perm (r.names.bindings.map Prod.swap) := by
  refine (List.perm_ext_iff_of_nodup r.ranks.nodup_bindings
    (r.names.nodup_bindings.map Prod.swap_injective)).mpr fun e => ?_
  have hnames : e ∈ r.names.bindings.map Prod.swap ↔ (e.2, e.1) ∈ r.names.bindings := by
    simp [List.mem_map, Prod.ext_iff, and_comm]
  rw [hnames, ← SortedTable.get?_eq_some_iff (t := r.names), h.inverse]
  exact SortedTable.get?_eq_some_iff.symm

theorem Paired.names_nodup (h : r.Paired) : (r.levels.map Prod.snd).Nodup := by
  have hperm := h.perm_levels.map Prod.snd
  rw [List.map_map] at hperm
  exact hperm.nodup_iff.mpr r.names.nodup_keys

theorem Paired.length_levels (h : r.Paired) : r.levels.length = r.size := by
  rw [h.perm_levels.length_eq, List.length_map]
  rfl

/-! ## One registration -/

/-- What comes of a call to register. -/
inductive Registration (r : Registry) (key : String) (l : Level) :
    Except LevelError Level × Registry → Prop where
  | blank : key = "" → Registration r key l (.error .emptyName, r)
  | repeated : key ≠ "" → r.names.get? key = some l → Registration r key l (.ok l, r)
  | conflicting {l' : Level} : key ≠ "" → r.names.get? key = some l' → l' ≠ l →
      Registration r key l (.error (.conflictingRank key l'.rank l.rank), r)
  | taken {n : String} : key ≠ "" → r.names.get? key = none → r.ranks.get? l = some n →
      Registration r key l (.error (.rankTaken l.rank n key), r)
  | added : key ≠ "" → r.names.get? key = none → r.ranks.get? l = none →
      Registration r key l (.ok l, r.withPair key l)

/-- **A call is refused, or repeats what is there, or adds a pair that is new on both sides.** -/
theorem registration_register (r : Registry) (name : String) (rank : UInt32) :
    Registration r (normalizeName name) ⟨rank⟩ (r.register name rank) := by
  unfold register
  dsimp only
  split
  case isTrue hkey => exact .blank hkey
  case isFalse hkey =>
    split
    case h_1 existing hname =>
      split
      case isTrue hsame => exact .repeated hkey (hsame ▸ hname)
      case isFalse hother => exact .conflicting hkey hname hother
    case h_2 hname =>
      split
      case h_1 existing hrank => exact .taken hkey hname hrank
      case h_2 hrank => exact .added hkey hname hrank

/-- **A registration finds its pair there, or its name and its rank free.** -/
theorem register_eq_ok_iff :
    r.register name rank = (.ok l, r') ↔
      l = ⟨rank⟩ ∧ normalizeName name ≠ ""
        ∧ (r.byName? name = some ⟨rank⟩ ∧ r' = r
          ∨ r.byName? name = none ∧ r.nameOf? ⟨rank⟩ = none
            ∧ r' = r.withPair (normalizeName name) ⟨rank⟩) := by
  have hcases := registration_register r name rank
  rw [byName?, nameOf?]
  generalize r.register name rank = outcome at hcases
  cases hcases with
  | blank hkey => simp [hkey]
  | repeated hkey hname => simp [hkey, hname, eq_comm]
  | conflicting hkey hname hother => simp [hname, hother]
  | taken hkey hname hrank => simp [hname, hrank]
  | added hkey hname hrank => simp [hkey, hname, hrank, eq_comm]

/-- A refused call leaves both tables as they were. -/
theorem register_eq_error {e : LevelError} (h : (r.register name rank).1 = .error e) :
    (r.register name rank).2 = r := by
  have hcases := registration_register r name rank
  generalize r.register name rank = outcome at hcases h
  cases hcases with
  | blank | conflicting | taken => rfl
  | repeated | added => cases h

/-- A new pair answers for its name and its rank, and all other answers stay. -/
theorem lookups_withPair (r : Registry) (key : String) (l : Level) :
    (∀ s, (r.withPair key l).byName? s
        = if normalizeName s = key then some l else r.byName? s)
      ∧ ∀ l', (r.withPair key l).nameOf? l' = if l' = l then some key else r.nameOf? l' := by
  simp only [eq_comm (b := key), eq_comm (b := l)]
  exact ⟨fun s => r.names.get?_insert key l _, fun l' => r.ranks.get?_insert l key l'⟩

theorem Paired.withPair (h : r.Paired) {key : String} (hkey : key ≠ "")
    (hnormal : normalizeName key = key) (hname : r.names.get? key = none)
    (hrank : r.ranks.get? l = none) : (r.withPair key l).Paired := by
  have hnames := r.names.get?_insert key l
  have hranks := r.ranks.get?_insert l key
  refine ⟨fun n l' => ?_, fun l' n hn => ?_⟩
  · show (r.names.insert key l).get? n = some l' ↔ (r.ranks.insert l key).get? l' = some n
    rw [hnames, hranks]
    by_cases hn : key = n
    · by_cases hl : l = l'
      · simp [hn, hl]
      · -- the old pair of that rank has another name, since this one was free
        have hfree : r.ranks.get? l' ≠ some n := by
          rw [ne_eq, ← h.inverse, ← hn, hname]
          exact nofun
        simp [hn, hl, hfree]
    · by_cases hl : l = l'
      · have hfree : r.names.get? n ≠ some l' := by
          rw [ne_eq, h.inverse, ← hl, hrank]
          exact nofun
        simp [hn, hl, hfree]
      · simp [hn, hl, h.inverse]
  · replace hn : (r.ranks.insert l key).get? l' = some n := hn
    rw [hranks] at hn
    split at hn
    case isTrue => exact Option.some.inj hn ▸ ⟨hkey, hnormal⟩
    case isFalse => exact h.normal l' n hn

theorem Paired.register (h : r.Paired) (name : String) (rank : UInt32) :
    (r.register name rank).2.Paired := by
  have hcases := registration_register r name rank
  generalize r.register name rank = outcome at hcases
  cases hcases with
  | blank | repeated | conflicting | taken => exact h
  | added hkey hname hrank =>
      exact h.withPair hkey (normalizeName_normalizeName name) hname hrank

/-- A pair whose rank was free joins the pairs that are there. -/
theorem mem_levels_withPair {key : String} {e : Level × String} (hrank : r.ranks.get? l = none) :
    e ∈ (r.withPair key l).levels ↔ e = (l, key) ∨ e ∈ r.levels := by
  obtain ⟨l', n⟩ := e
  rw [← nameOf?_eq_some_iff, ← nameOf?_eq_some_iff, (lookups_withPair r key l).2]
  by_cases hl : l' = l
  · simp [hl, nameOf?, hrank, eq_comm]
  · simp [hl]

/-- No pair is ever taken out. -/
theorem mem_levels_register {e : Level × String} (he : e ∈ r.levels) :
    e ∈ (r.register name rank).2.levels := by
  have hcases := registration_register r name rank
  generalize r.register name rank = outcome at hcases
  cases hcases with
  | blank | repeated | conflicting | taken => exact he
  | added _ _ hrank => exact (mem_levels_withPair hrank).mpr (.inr he)

/-- After a registration its pair is there. -/
theorem byName?_register (hreg : r.register name rank = (.ok l, r')) :
    r'.byName? name = some ⟨rank⟩ := by
  obtain ⟨-, -, ⟨hname, rfl⟩ | ⟨-, -, rfl⟩⟩ := register_eq_ok_iff.mp hreg
  · exact hname
  · rw [(lookups_withPair _ _ _).1, if_pos rfl]

/-! ## Registrations one after another -/

/-- The registry after calls to register, accepted or not. -/
def afterCalls (r : Registry) (calls : List (String × UInt32)) : Registry :=
  calls.foldl (fun r c => (r.register c.1 c.2).2) r

theorem Paired.afterCalls (h : r.Paired) (calls : List (String × UInt32)) :
    (r.afterCalls calls).Paired :=
  List.foldlRecOn calls _ h fun _ hr c _ => hr.register c.1 c.2

theorem mem_levels_afterCalls {e : Level × String} (calls : List (String × UInt32))
    (he : e ∈ r.levels) : e ∈ (r.afterCalls calls).levels :=
  List.foldlRecOn (motive := fun r : Registry => e ∈ r.levels) calls _ he
    fun _ hr _ _ => mem_levels_register hr

/-- Where all registrations are accepted, nothing else comes of them. -/
theorem afterCalls_eq_of_registerAll {calls : List (String × UInt32)}
    (hreg : r.registerAll calls = .ok r') : r.afterCalls calls = r' := by
  induction calls generalizing r with
  | nil => exact Except.ok.inj hreg
  | cons c calls ih =>
      rw [registerAll] at hreg
      split at hreg
      case h_1 l r₁ hfirst =>
        rw [afterCalls, List.foldl_cons, hfirst]
        exact ih hreg
      case h_2 => cases hreg

theorem Paired.registerAll {extra : List (String × UInt32)} (h : r.Paired)
    (hreg : r.registerAll extra = .ok r') :
    r'.Paired ∧ (∀ e ∈ r.levels, e ∈ r'.levels)
      ∧ ∀ x ∈ extra, r'.byName? x.1 = some ⟨x.2⟩ := by
  have hafter := afterCalls_eq_of_registerAll hreg
  refine ⟨hafter ▸ h.afterCalls extra, fun e he => hafter ▸ mem_levels_afterCalls extra he, ?_⟩
  clear hafter
  induction extra generalizing r with
  | nil => simp
  | cons x extra ih =>
      rw [Registry.registerAll] at hreg
      split at hreg
      case h_2 => cases hreg
      case h_1 l r₁ hfirst =>
        have h₁ : r₁.Paired := by
          have hpaired := h.register x.1 x.2
          rwa [hfirst] at hpaired
        rw [List.forall_mem_cons]
        refine ⟨?_, ih h₁ hreg⟩
        -- what the first registration put there is still there in the end
        have hafter := afterCalls_eq_of_registerAll hreg
        have hlast : r'.Paired := hafter ▸ h₁.afterCalls extra
        have hthere := h₁.byName?_eq_some_iff.mp (byName?_register hfirst)
        exact hlast.byName?_eq_some_iff.mpr (hafter ▸ mem_levels_afterCalls extra hthere)

theorem paired_defaults : defaults.Paired := (paired_empty.registerAll registerAll_builtin).1

/--
**Names and ranks are inverse to each other, whatever was registered before.**

After any calls on an empty registry or on the built-in one, each of its two tables has
the pairs of the other one turned round. So a name has a rank exactly if the rank has the
name in its normal form. Every name is kept in that form and is not empty, and each pair is
listed once, in ascending rank. A further call is accepted exactly if its name is not blank
and either its pair is there already or its name and rank are both free. A new pair changes
the answers for itself only, and every other call leaves both tables as they were. So no
answer is ever taken back.
-/
theorem names_ranks_inverse {start : Registry} {calls : List (String × UInt32)}
    (hstart : start = empty ∨ start = defaults) (hr : start.afterCalls calls = r) :
    (∀ n l, r.names.get? n = some l ↔ r.ranks.get? l = some n)
      ∧ (∀ s l, r.byName? s = some l ↔ r.nameOf? l = some (normalizeName s))
      ∧ (∀ l n, r.nameOf? l = some n → n ≠ "" ∧ normalizeName n = n)
      ∧ (r.levels.Pairwise (fun a b => a.1 < b.1) ∧ (r.levels.map Prod.snd).Nodup
          ∧ (∀ l n, (l, n) ∈ r.levels ↔ r.nameOf? l = some n) ∧ r.levels.length = r.size)
      ∧ (∀ name rank, (∃ l, (r.register name rank).1 = .ok l) ↔
          normalizeName name ≠ "" ∧ (r.byName? name = some ⟨rank⟩
            ∨ r.byName? name = none ∧ r.nameOf? ⟨rank⟩ = none))
      ∧ (∀ name rank e, (r.register name rank).1 = .error e → (r.register name rank).2 = r)
      ∧ (∀ name rank, r.byName? name = some ⟨rank⟩ → r.register name rank = (.ok ⟨rank⟩, r))
      ∧ (∀ name rank l r', r.register name rank = (.ok l, r') → r.byName? name ≠ some ⟨rank⟩ →
          l = ⟨rank⟩
            ∧ (∀ s, r'.byName? s
              = if normalizeName s = normalizeName name then some ⟨rank⟩ else r.byName? s)
            ∧ ∀ l, r'.nameOf? l
              = if l = ⟨rank⟩ then some (normalizeName name) else r.nameOf? l)
      ∧ ∀ more, (∀ s l, r.byName? s = some l → (r.afterCalls more).byName? s = some l)
          ∧ ∀ l n, r.nameOf? l = some n → (r.afterCalls more).nameOf? l = some n := by
  have h : r.Paired := by
    rw [← hr]
    rcases hstart with rfl | rfl
    · exact paired_empty.afterCalls calls
    · exact paired_defaults.afterCalls calls
  refine ⟨h.inverse, fun s l => h.byName?_iff_nameOf?, h.normal,
    ⟨r.ranks.ascending, h.names_nodup, fun l n => nameOf?_eq_some_iff.symm, h.length_levels⟩,
    fun name rank => ?_, fun name rank e => register_eq_error, fun name rank hname => ?_,
    fun name rank l r' hreg hnew => ?_, fun more => ⟨fun s l hs => ?_, fun l n hn => ?_⟩⟩
  · have hcases := registration_register r name rank
    rw [byName?, nameOf?]
    generalize r.register name rank = outcome at hcases
    cases hcases with
    | blank hkey => simp [hkey]
    | repeated hkey hname => simp [hkey, hname]
    | conflicting hkey hname hother => simp [hname, hother]
    | taken hkey hname hrank => simp [hname, hrank]
    | added hkey hname hrank => simp [hkey, hname, hrank]
  · have hkey := (h.normal _ _ (h.byName?_iff_nameOf?.mp hname)).1
    exact register_eq_ok_iff.mpr ⟨rfl, hkey, .inl ⟨hname, rfl⟩⟩
  · obtain ⟨rfl, -, ⟨hname, -⟩ | ⟨-, -, rfl⟩⟩ := register_eq_ok_iff.mp hreg
    · exact absurd hname hnew
    · exact ⟨rfl, lookups_withPair _ _ _⟩
  · rw [h.byName?_eq_some_iff] at hs
    exact (h.afterCalls more).byName?_eq_some_iff.mpr (mem_levels_afterCalls more hs)
  · rw [nameOf?_eq_some_iff] at hn ⊢
    exact mem_levels_afterCalls more hn

/-- A new level, the same one in another spelling, and three calls that are refused. -/
def mixedCalls : List (String × UInt32) :=
  [(" trace\u3000", 5), ("Trace", 5), ("TRACE", 6), ("alert", 30), (" \u00a0", 7)]

/-- Of the calls in `mixedCalls` one adds a pair, and another spelling of its name finds it. -/
theorem names_ranks_inverse_mixedCalls :
    defaults.afterCalls mixedCalls = defaults.withPair "TRACE" ⟨5⟩
      ∧ (defaults.afterCalls mixedCalls).byName? "\ttRACe" = some ⟨5⟩ := by
  have hcalls : defaults.afterCalls mixedCalls = defaults.withPair "TRACE" ⟨5⟩ := by
    decide +kernel
  have hinverse := (names_ranks_inverse (.inr rfl) hcalls).2.1
  refine ⟨hcalls, ?_⟩
  rw [hcalls, hinverse]
  decide +kernel

end Registry

end Herald
