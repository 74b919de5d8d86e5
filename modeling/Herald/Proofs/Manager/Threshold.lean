import Mathlib.Data.List.Basic
import Herald.Proofs.Manager.Isolation

/-!
# Thresholds over a whole history

Which threshold is in force for a logger depends on everything that was asked of its
manager so far. `InForce` says how, from the list of operations alone: the logger's
own level, if the last one set is a level; otherwise the threshold of the longest of
the names above it for which the last thing said is a level; otherwise the last
level of the root. A threshold of `notset` is none, and what other names and other
operations say does not matter.

The manager keeps tables instead. What they hold is the latest that was said
(`holds_course`), and the walk up the name meets the longest name first
(`pairwise_lineage`).
-/

namespace Herald

/-! ## The names above a name -/

/-- The name itself, or a part of it that ends just before one of its dots. -/
def IsAncestor (p name : String) : Prop := p = name ∨ p.toList ++ ['.'] <+: name.toList

theorem mem_dotPrefixes {p name : List Char} : p ∈ dotPrefixes name ↔ p ++ ['.'] <+: name := by
  induction name generalizing p with
  | nil => simp [dotPrefixes]
  | cons c rest ih =>
      -- a part that ends before a later dot starts with `c`; the empty one ends before `c`
      cases p with
      | nil =>
          by_cases hc : c = '.'
          · simp [dotPrefixes, hc]
          · simp [dotPrefixes, hc, Ne.symm hc]
      | cons c' p =>
          have hlater : c' :: p ∈ (dotPrefixes rest).map (c :: ·) ↔ c' = c ∧ p ++ ['.'] <+: rest := by
            rw [List.mem_map]
            constructor
            · rintro ⟨p', hp', heq⟩
              obtain ⟨rfl, rfl⟩ := List.cons.inj heq
              exact ⟨rfl, ih.mp hp'⟩
            · rintro ⟨rfl, hp⟩
              exact ⟨p, ih.mpr hp, rfl⟩
          rw [List.cons_append, List.cons_prefix_cons, ← hlater]
          by_cases hc : c = '.'
          · simp [dotPrefixes, hc]
          · simp [dotPrefixes, hc]

theorem pairwise_dotPrefixes (name : List Char) :
    (dotPrefixes name).Pairwise fun p p' => p'.length < p.length := by
  induction name with
  | nil => exact .nil
  | cons c rest ih =>
      have hlater : ((dotPrefixes rest).map (c :: ·)).Pairwise fun p p' => p'.length < p.length := by
        rw [List.pairwise_map]
        exact ih.imp fun h => Nat.succ_lt_succ h
      rw [dotPrefixes]
      split
      case isFalse _ => exact hlater
      case isTrue _ =>
        refine List.pairwise_append.mpr ⟨hlater, List.pairwise_singleton _ _, ?_⟩
        intro p hp p' hp'
        obtain ⟨r, _, rfl⟩ := List.mem_map.mp hp
        rw [List.mem_singleton.mp hp']
        exact Nat.succ_pos _

theorem mem_lineage {p name : String} : p ∈ lineage name ↔ IsAncestor p name := by
  rw [lineage, List.mem_cons, List.mem_map, IsAncestor]
  refine or_congr Iff.rfl ⟨?_, fun h => ⟨p.toList, mem_dotPrefixes.mpr h, String.ofList_toList⟩⟩
  rintro ⟨p', hp', rfl⟩
  rw [String.toList_ofList]
  exact mem_dotPrefixes.mp hp'

/-- **A walk up a name meets longer names first.** -/
theorem pairwise_lineage (name : String) :
    (lineage name).Pairwise fun p p' => p'.length < p.length := by
  rw [lineage, List.pairwise_cons]
  constructor
  · intro p hp
    obtain ⟨p', hp', rfl⟩ := List.mem_map.mp hp
    have hlen := (mem_dotPrefixes.mp hp').length_le
    rw [List.length_append, List.length_singleton, String.length_toList] at hlen
    rw [String.length_ofList]
    omega
  · rw [List.pairwise_map]
    refine (pairwise_dotPrefixes name.toList).imp fun h => ?_
    rw [String.length_ofList, String.length_ofList]
    exact h

/-- Of the names above a name no two are equally long. -/
theorem IsAncestor.eq_of_length {p p' name : String} (h : IsAncestor p name)
    (h' : IsAncestor p' name) (hlen : p.length = p'.length) : p = p' := by
  have hstart : ∀ {p : String}, IsAncestor p name → p.toList <+: name.toList := by
    rintro p (rfl | hp)
    · exact List.prefix_rfl
    · exact (List.prefix_append _ _).trans hp
  rw [← String.length_toList, ← String.length_toList] at hlen
  have heq := List.prefix_of_prefix_length_le (hstart h) (hstart h') hlen.le
  exact String.toList_inj.mp (heq.eq_of_length hlen)

/-! ## What was said last -/

namespace Operation

/-- The level that an operation gives to a logger. -/
def ownLevel? (key : String) : Operation → Option Level
  | .setLoggerLevel name l => if Manager.loggerName name = key then some l else none
  | _ => none

/-- What an operation says about the threshold of exactly this name: a level, or that there is none. -/
def subtree? (p : String) : Operation → Option (Option Level)
  | .setLevel name l => if name = p then some (some l) else none
  | .clearLevel name => if name = p then some none else none
  | _ => none

/-- The level that an operation gives to the root. -/
def rootLevel? : Operation → Option Level
  | .setRootLevel l => some l
  | _ => none

end Operation

/-- What the last operation says that says something. -/
def latest {α : Type} (f : Operation → Option α) (ops : List Operation) : Option α :=
  (ops.filterMap f).getLast?

theorem latest_snoc {α : Type} (f : Operation → Option α) (ops : List Operation) (o : Operation) :
    latest f (ops ++ [o]) = (f o).or (latest f ops) := by
  rw [latest, List.filterMap_append, List.getLast?_append]
  cases ho : f o <;> simp [ho, latest]

/-- The last thing said about this name sets it a threshold. -/
def HasThreshold (ops : List Operation) (p : String) (l : Level) : Prop :=
  latest (Operation.subtree? p) ops = some (some l) ∧ l ≠ Level.notset

/-- A logger has a level of its own. -/
def HasLevel (ops : List Operation) (key : String) (l : Level) : Prop :=
  latest (Operation.ownLevel? key) ops = some l ∧ l ≠ Level.notset

/-- The threshold in force for a logger after these operations, where the root started at `root`. -/
inductive InForce (root : Level) (ops : List Operation) (key : String) : Level → Prop where
  | own {l : Level} (h : HasLevel ops key l) : InForce root ops key l
  | subtree {p : String} {l : Level} (hown : ∀ l, ¬HasLevel ops key l) (hp : IsAncestor p key)
      (h : HasThreshold ops p l)
      (hlongest : ∀ p' l', IsAncestor p' key → HasThreshold ops p' l' → p'.length ≤ p.length) :
      InForce root ops key l
  | root (hown : ∀ l, ¬HasLevel ops key l)
      (hnone : ∀ p l, IsAncestor p key → ¬HasThreshold ops p l) :
      InForce root ops key ((latest Operation.rootLevel? ops).getD root)

theorem InForce.unique {root : Level} {ops : List Operation} {key : String} {l l' : Level}
    (h : InForce root ops key l) (h' : InForce root ops key l') : l = l' := by
  cases h with
  | own h =>
      cases h' with
      | own h' => exact Option.some.inj (h.1.symm.trans h'.1)
      | subtree hown => exact absurd h (hown l)
      | root hown => exact absurd h (hown l)
  | @subtree p _ hown hp h hlongest =>
      cases h' with
      | own h' => exact absurd h' (hown l')
      | @subtree p' _ _ hp' h' hlongest' =>
          -- both names are longest, and above one name no two are equally long
          have hle := hlongest p' l' hp' h'
          have hle' := hlongest' p l hp h
          obtain rfl := hp.eq_of_length hp' (by omega)
          exact Option.some.inj (Option.some.inj (h.1.symm.trans h'.1))
      | root _ hnone => exact absurd h (hnone p l hp)
  | root hown hnone =>
      cases h' with
      | own h' => exact absurd h' (hown l')
      | @subtree p' _ _ hp' h' => exact absurd h' (hnone p' l' hp')
      | root => rfl

namespace Manager

variable {m m' q q' : Manager} {hist hist' : History} {ops : List Operation} {o : Operation}

/-! ## What the tables hold -/

/-- What a threshold table makes of what was said about a name. -/
def settled (said : Option Level) : Option Level := said.filter (· ≠ Level.notset)

/-- Thresholds are those of `m` with what the operations said last. -/
structure Holds (m : Manager) (ops : List Operation) (q : Manager) : Prop where
  level : ∀ key, (q.logger key).level
    = (latest (Operation.ownLevel? key) ops).getD (m.logger key).level
  subtreeLevel? : ∀ p, q.subtreeLevel? p
    = ((latest (Operation.subtree? p) ops).map settled).getD (m.subtreeLevel? p)
  rootLevel : q.rootLevel = (latest Operation.rootLevel? ops).getD m.rootLevel

theorem Holds.refl (m : Manager) : Holds m [] m := ⟨fun _ => rfl, fun _ => rfl, rfl⟩

/-- The same thresholds are set in both. -/
structure SameThresholds (q q' : Manager) : Prop where
  level : ∀ key, (q'.logger key).level = (q.logger key).level
  subtreeLevel? : ∀ p, q'.subtreeLevel? p = q.subtreeLevel? p
  rootLevel : q'.rootLevel = q.rootLevel

theorem SameRules.sameThresholds (h : SameRules q q') : SameThresholds q q' where
  level key := by rw [h.logger]
  subtreeLevel? p := by rw [Manager.subtreeLevel?, Manager.subtreeLevel?, h.subtrees]
  rootLevel := h.rootLevel

theorem Holds.same (h : Holds m ops q) (hsame : SameThresholds q q') : Holds m ops q' where
  level key := (hsame.level key).trans (h.level key)
  subtreeLevel? p := (hsame.subtreeLevel? p).trans (h.subtreeLevel? p)
  rootLevel := hsame.rootLevel.trans h.rootLevel

/-- An operation that says nothing about thresholds. -/
theorem Holds.silent (h : Holds m ops q) (hown : ∀ key, o.ownLevel? key = none)
    (hsubtree : ∀ p, o.subtree? p = none) (hroot : o.rootLevel? = none) :
    Holds m (ops ++ [o]) q where
  level key := by rw [latest_snoc, hown, Option.none_or, h.level]
  subtreeLevel? p := by rw [latest_snoc, hsubtree, Option.none_or, h.subtreeLevel?]
  rootLevel := by rw [latest_snoc, hroot, Option.none_or, h.rootLevel]

theorem Holds.setLoggerLevel (h : Holds m ops q) (name : String) (l : Level) :
    Holds m (ops ++ [.setLoggerLevel name l]) (q.setLoggerLevel (loggerName name) l) where
  level key := by
    rw [logger_setLoggerLevel, latest_snoc, Operation.ownLevel?]
    by_cases hkey : loggerName name = key
    · rw [if_pos hkey, if_pos hkey]
      rfl
    · rw [if_neg hkey, if_neg hkey, Option.none_or, ← h.level]
  subtreeLevel? p := by
    rw [latest_snoc]
    exact h.subtreeLevel? p
  rootLevel := by
    rw [latest_snoc]
    exact h.rootLevel

theorem Holds.setLevel (h : Holds m ops q) (name : String) (l : Level) :
    Holds m (ops ++ [.setLevel name l]) (q.setLevel name l) where
  level key := by
    rw [latest_snoc]
    exact h.level key
  subtreeLevel? p := by
    rw [subtreeLevel?_setLevel, latest_snoc, Operation.subtree?]
    by_cases hp : name = p
    · rw [if_pos hp, if_pos hp]
      by_cases hl : l = Level.notset <;> simp [settled, Option.filter, hl]
    · rw [if_neg hp, if_neg hp, Option.none_or, h.subtreeLevel?]
  rootLevel := by
    rw [latest_snoc]
    exact h.rootLevel

theorem Holds.clearLevel (h : Holds m ops q) (name : String) :
    Holds m (ops ++ [.clearLevel name]) (q.clearLevel name) where
  level key := by
    rw [latest_snoc]
    exact h.level key
  subtreeLevel? p := by
    rw [subtreeLevel?_clearLevel, latest_snoc, Operation.subtree?]
    by_cases hp : name = p
    · rw [if_pos hp, if_pos hp]
      rfl
    · rw [if_neg hp, if_neg hp, Option.none_or, h.subtreeLevel?]
  rootLevel := by
    rw [latest_snoc]
    exact h.rootLevel

theorem Holds.setRootLevel (h : Holds m ops q) (l : Level) :
    Holds m (ops ++ [.setRootLevel l]) (q.setRootLevel l) where
  level key := by
    rw [latest_snoc]
    exact h.level key
  subtreeLevel? p := by
    rw [latest_snoc]
    exact h.subtreeLevel? p
  rootLevel := by
    rw [latest_snoc]
    rfl

/-- **Every operation leaves in the tables what was said last.** -/
theorem holds_perform (h : Holds m ops q) (site : Site) (o : Operation) (as : List Remote.Action) :
    Holds m (ops ++ [o]) (q.perform site o as).1 := by
  have hget : ∀ name, SameRules q (q.getLogger name).1 := fun name => sameRules_getLogger q name
  have hmade : ∀ name, Holds m ops (q.getLogger name).1 := fun name =>
    h.same (hget name).sameThresholds
  -- four operations say something about thresholds; the others keep them
  cases o with
  | getLogger name => exact (hmade name).silent (fun _ => rfl) (fun _ => rfl) rfl
  | log name l message =>
      have hlog := sameRules_logAt (q.getLogger name).1 site (loggerName name) l message
      rw [perform_log]
      exact ((hmade name).same hlog.sameThresholds).silent (fun _ => rfl) (fun _ => rfl) rfl
  | notify name message =>
      have hlog := sameRules_notify (q.getLogger name).1 site (loggerName name) message
      rw [perform_notify]
      exact ((hmade name).same hlog.sameThresholds).silent (fun _ => rfl) (fun _ => rfl) rfl
  | network name message warning =>
      have hlog := sameRules_network (q.getLogger name).1 site (loggerName name) message warning as
      rw [perform_network]
      exact ((hmade name).same hlog.sameThresholds).silent (fun _ => rfl) (fun _ => rfl) rfl
  | setLoggerLevel name l =>
      rw [perform_setLoggerLevel]
      exact (hmade name).setLoggerLevel name l
  | setLevel name l => exact h.setLevel name l
  | clearLevel name => exact h.clearLevel name
  | setRootLevel l => exact h.setRootLevel l
  | attach place s =>
      cases place with
      | none =>
          have hadd : SameThresholds q (q.addRootSink s) := ⟨fun _ => rfl, fun _ => rfl, rfl⟩
          exact (h.same hadd).silent (fun _ => rfl) (fun _ => rfl) rfl
      | some name =>
          have hadd : SameThresholds (q.getLogger name).1
              ((q.getLogger name).1.addSink (loggerName name) s) := by
            refine ⟨fun key => ?_, fun _ => rfl, rfl⟩
            rw [logger_addSink]
          rw [perform_attach]
          exact ((hmade name).same hadd).silent (fun _ => rfl) (fun _ => rfl) rfl
  | install a =>
      have hinstall : SameThresholds q { q with slot := q.slot.install a } :=
        ⟨fun _ => rfl, fun _ => rfl, rfl⟩
      exact (h.same hinstall).silent (fun _ => rfl) (fun _ => rfl) rfl
  | clear =>
      have hclear : SameThresholds q { q with slot := q.slot.clear } :=
        ⟨fun _ => rfl, fun _ => rfl, rfl⟩
      exact (h.same hclear).silent (fun _ => rfl) (fun _ => rfl) rfl

/-- **After any course the tables hold what was said last.** -/
theorem holds_course (h : Course m hist q) : Holds m (operations hist) q := by
  induction h with
  | start => exact .refl m
  | @next hist q q' a _ hstep ih =>
      rw [operations_snoc]
      cases hstep with
      | call c as =>
          have hstack : SameThresholds q { q with stack := c.stack } :=
            ⟨fun _ => rfl, fun _ => rfl, rfl⟩
          exact holds_perform (ih.same hstack) c.site c.operation as
      | tick now =>
          have htick : SameThresholds q { q with clock := now } :=
            ⟨fun _ => rfl, fun _ => rfl, rfl⟩
          simpa [Move.call?] using ih.same htick
      | remote a hs hstep =>
          simpa [Move.call?] using ih.same (sameRules_withRemote hs _ _).sameThresholds

/-! ## The threshold in force -/

/-- Only the thresholds of a logger itself, of the names above it and of the root matter for it. -/
theorem effectiveLevel_congr {key : String} (hlevel : (q.logger key).level = (q'.logger key).level)
    (hsubtree : ∀ p, IsAncestor p key → q.subtreeLevel? p = q'.subtreeLevel? p)
    (hroot : q.rootLevel = q'.rootLevel) : q.effectiveLevel key = q'.effectiveLevel key := by
  have hfound : (lineage key).filterMap q.subtreeLevel? = (lineage key).filterMap q'.subtreeLevel? :=
    List.filterMap_congr fun p hp => hsubtree p (mem_lineage.mp hp)
  rw [effectiveLevel_eq, effectiveLevel_eq, hlevel, inheritedLevel, inheritedLevel, hroot,
    ← List.head?_filterMap, ← List.head?_filterMap, hfound]

/-- Managers with the same thresholds for a logger keep them the same through the same operations. -/
theorem effectiveLevel_of_operations_eq {key : String}
    (hlevel : (m.logger key).level = (m'.logger key).level)
    (hsubtree : ∀ p, IsAncestor p key → m.subtreeLevel? p = m'.subtreeLevel? p)
    (hroot : m.rootLevel = m'.rootLevel) (h : Course m hist q) (h' : Course m' hist' q')
    (hops : operations hist = operations hist') : q.effectiveLevel key = q'.effectiveLevel key := by
  have hq := holds_course h
  have hq' := holds_course h'
  rw [hops] at hq
  refine effectiveLevel_congr ?_ (fun p hp => ?_) ?_
  · rw [hq.level, hq'.level, hlevel]
  · rw [hq.subtreeLevel?, hq'.subtreeLevel?, hsubtree p hp]
  · rw [hq.rootLevel, hq'.rootLevel, hroot]

/-- What is said about a name that is not above a logger does not matter for it, then or later. -/
theorem effectiveLevel_of_not_isAncestor {p key : String} {l : Level} (hp : ¬IsAncestor p key)
    (hchanged : m' = m.setLevel p l ∨ m' = m.clearLevel p) (h : Course m hist q)
    (h' : Course m' hist' q') (hops : operations hist = operations hist') :
    q'.effectiveLevel key = q.effectiveLevel key := by
  have hlevel : (m'.logger key).level = (m.logger key).level := by
    rcases hchanged with rfl | rfl <;> rfl
  have hroot : m'.rootLevel = m.rootLevel := by
    rcases hchanged with rfl | rfl <;> rfl
  have hsubtree : ∀ p', IsAncestor p' key → m'.subtreeLevel? p' = m.subtreeLevel? p' := by
    intro p' hp'
    have hne : p ≠ p' := fun heq => hp (heq ▸ hp')
    rcases hchanged with rfl | rfl
    · rw [subtreeLevel?_setLevel, if_neg hne]
    · rw [subtreeLevel?_clearLevel, if_neg hne]
  exact effectiveLevel_of_operations_eq hlevel hsubtree hroot h' h hops.symm

/-- Nothing is set beforehand but the level of the root. -/
structure Blank (m : Manager) : Prop where
  level : ∀ key, (m.logger key).level = Level.notset
  subtreeLevel? : ∀ p, m.subtreeLevel? p = none

theorem Holds.hasLevel_iff (h : Holds m ops q) (hm : Blank m) (key : String) (l : Level) :
    HasLevel ops key l ↔ (q.logger key).level = l ∧ l ≠ Level.notset := by
  rw [HasLevel, h.level, hm.level]
  refine and_congr_left fun hl => ?_
  cases latest (Operation.ownLevel? key) ops with
  | none => exact ⟨fun hnone => absurd hnone (by simp), fun hnone => absurd hnone.symm hl⟩
  | some l' => exact ⟨Option.some.inj, congrArg some⟩

theorem Holds.hasThreshold_iff (h : Holds m ops q) (hm : Blank m) (p : String) (l : Level) :
    HasThreshold ops p l ↔ q.subtreeLevel? p = some l := by
  rw [HasThreshold, h.subtreeLevel?, hm.subtreeLevel?]
  rcases latest (Operation.subtree? p) ops with _ | _ | l'
  · simp
  · simp [settled]
  · simp only [Option.some.injEq, Option.map_some, Option.getD_some, settled,
      Option.filter_eq_some_iff, decide_eq_true_eq]

/-- **The walk up the name finds the threshold that is in force.** -/
theorem Holds.inForce (h : Holds m ops q) (hm : Blank m) (key : String) :
    InForce m.rootLevel ops key (q.effectiveLevel key) := by
  rw [effectiveLevel_eq]
  split
  case isFalse hown => exact .own ((h.hasLevel_iff hm key _).mpr ⟨rfl, hown⟩)
  case isTrue hown =>
    have hnone : ∀ l, ¬HasLevel ops key l := by
      intro l hl
      obtain ⟨hlevel, hne⟩ := (h.hasLevel_iff hm key l).mp hl
      exact hne (hlevel.symm.trans hown)
    rw [inheritedLevel]
    -- nothing of its own: the tables decide, from the logger's name upwards
    cases hfound : (lineage key).findSome? q.subtreeLevel? with
    | none =>
        rw [Option.getD_none, h.rootLevel]
        refine .root hnone fun p l hp hset => ?_
        have habsent := List.findSome?_eq_none_iff.mp hfound p (mem_lineage.mpr hp)
        rw [(h.hasThreshold_iff hm p l).mp hset] at habsent
        exact absurd habsent (by simp)
    | some l =>
        obtain ⟨longer, p, shorter, hsplit, hset, hlonger⟩ := List.findSome?_eq_some_iff.mp hfound
        have hp : IsAncestor p key := mem_lineage.mp (by simp [hsplit])
        refine .subtree hnone hp ((h.hasThreshold_iff hm p l).mpr hset) fun p' l' hp' hset' => ?_
        -- what comes before `p` on the way up has no threshold, and what comes after it is shorter
        have horder := pairwise_lineage key
        have hmem := mem_lineage.mpr hp'
        rw [hsplit] at horder hmem
        rcases List.mem_append.mp hmem with hbefore | hafter
        · have habsent := hlonger p' hbefore
          rw [(h.hasThreshold_iff hm p' l').mp hset'] at habsent
          exact absurd habsent (by simp)
        · rcases List.mem_cons.mp hafter with rfl | hafter
          · exact Nat.le_refl _
          · have hshorter := (List.pairwise_cons.mp (List.pairwise_append.mp horder).2.1).1
            exact Nat.le_of_lt (hshorter p' hafter)

theorem blank_assemble (names : Registry) (plan : Plan) (root : Level)
    (remote : Option Remote.Sink) : Blank (assemble names plan root remote) := by
  refine ⟨fun key => ?_, fun p => rfl⟩
  cases remote <;> rfl

theorem parse_of_build {names : Registry} {plan : Plan} {events : List Event}
    (hbuild : build names plan = .ok (m, events)) :
    Level.parse names plan.config.rootLevel = .ok m.rootLevel := by
  obtain ⟨root, hready, hbuilt⟩ := ((build_iff names plan).1 _).mp hbuild
  obtain ⟨rfl, -⟩ := Prod.mk.inj hbuilt
  exact hready.valid.parsed

/-- Setting `notset` for a name does what clearing it does. -/
theorem alike_setLevel_notset (m : Manager) (p : String) :
    Alike (m.setLevel p Level.notset) (m.clearLevel p) := by
  rw [Alike, localSide_setLevel, localSide_clearLevel]
  simp

/--
**The threshold in force is what the whole history says it is.**

A manager is built, and from then on anything happens. Then the threshold of every
logger is the one in force by the operations so far, where the root started at the
configured level. What is said about a name that is not above a logger does not
matter for it, whatever comes after. And setting `notset` for a name cannot be told
from clearing it: under the same calls all thresholds are and stay the same, and the
same is heard.
-/
theorem effectiveLevel_iff_inForce {names : Registry} {plan : Plan} {events : List Event}
    (hbuild : build names plan = .ok (m, events)) (h : Course m hist q) :
    Level.parse names plan.config.rootLevel = .ok m.rootLevel
      ∧ (∀ key l, q.effectiveLevel key = l ↔ InForce m.rootLevel (operations hist) key l)
      ∧ (∀ p key l changed, ¬IsAncestor p key →
          changed = q.setLevel p l ∨ changed = q.clearLevel p →
          ∀ hist₁ hist₂ q₁ q₂, Course q hist₁ q₁ → Course changed hist₂ q₂ →
            operations hist₁ = operations hist₂ → q₂.effectiveLevel key = q₁.effectiveLevel key)
      ∧ (∀ p hist₁ hist₂ q₁ q₂, Course (q.setLevel p Level.notset) hist₁ q₁ →
          Course (q.clearLevel p) hist₂ q₂ → calls hist₁ = calls hist₂ →
          (∀ key, q₁.effectiveLevel key = q₂.effectiveLevel key)
            ∧ heardAll hist₁ = heardAll hist₂) := by
  refine ⟨parse_of_build hbuild, fun key l => ?_, ?_, ?_⟩
  · obtain ⟨root, remote, -, rfl⟩ := exists_assemble_of_build hbuild
    have hforce := (holds_course h).inForce (blank_assemble names plan root remote) key
    constructor
    · rintro rfl
      exact hforce
    · exact hforce.unique
  · intro p key l changed hp hchanged hist₁ hist₂ q₁ q₂ h₁ h₂ hops
    exact effectiveLevel_of_not_isAncestor hp hchanged h₁ h₂ hops
  · intro p hist₁ hist₂ q₁ q₂ h₁ h₂ hcalls
    have hcomes := comes_of_calls_eq (alike_setLevel_notset q p) h₁ h₂ hcalls
    exact ⟨hcomes.alike.effectiveLevel, hcomes.heard⟩

/-- Thresholds above and beside a logger: one of them is taken back, one was never one. -/
def mixedCalls : List Call :=
  [.setLevel "a" Level.error, .setLevel "a.b" Level.debug, .setLevel "a.b" Level.notset,
    .setLevel "a.bc" Level.critical, .setLoggerLevel " a.b.c " Level.info,
    .setLoggerLevel "a.b.c" Level.notset, .setRootLevel Level.warning].map fun o =>
      { site := ⟨"app", 1⟩, operation := o }

/-- The threshold of `a` is in force for `a.b.c`. -/
theorem effectiveLevel_iff_inForce_mixedRun :
    ∃ m events hist q, build .defaults localPlan = .ok (m, events) ∧ Course m hist q
      ∧ calls hist = mixedCalls
      ∧ InForce Level.info (operations hist) "a.b.c" Level.error
      ∧ ¬IsAncestor "a.bc" "a.b.c" := by
  have hbuild : build .defaults localPlan
      = .ok (assemble .defaults localPlan Level.info none, []) := rfl
  have hcourse := course_of_calls (assemble .defaults localPlan Level.info none) mixedCalls
  refine ⟨_, _, _, _, hbuild, hcourse, rfl, ?_, ?_⟩
  · exact ((effectiveLevel_iff_inForce hbuild hcourse).2.1 "a.b.c" Level.error).mp
      (by decide +kernel)
  · rw [IsAncestor]
    decide

end Manager

end Herald
