import Herald.Escalation.TestRunner
import Herald.Proofs.Text.Split

/-!
# Which paths are those of test binaries

A path is pieces with slashes between them, and its steps are the pieces that are
neither empty nor a single dot. The components of a path are its steps, with the root
or a single dot in front where the path starts with them; neither of the two is a name,
so the last two names of a path are its last two steps, if it has that many and two
dots are none of them.

The grammar is said in terms of steps, and a file name is taken apart by what it is put
together from. Slashes put between two steps or at the end add no steps, with or without
single dots among them, so they do not matter.
-/

namespace Herald

/-! ## Steps -/

/-- A path as pieces, none of which has a slash in it. -/
structure Pieces (path : List Char) (pieces : List (List Char)) : Prop where
  joined : path = ['/'].intercalate pieces
  nonempty : pieces ≠ []
  apart : ∀ p ∈ pieces, '/' ∉ p

/-- A piece that leads somewhere. -/
def isStep (piece : List Char) : Bool := ¬(piece = [] ∨ piece = ['.'])

/-- The pieces of a path that lead somewhere. -/
def Steps (path : List Char) (steps : List (List Char)) : Prop :=
  ∃ pieces, Pieces path pieces ∧ pieces.filter isStep = steps

namespace Path

variable {path path' : List Char} {dir file : List Char}

/-- The steps of a path. -/
def steps (path : List Char) : List (List Char) :=
  (Text.splitOn '/' path).filter isStep

theorem steps_eq_iff {ss : List (List Char)} : steps path = ss ↔ Steps path ss := by
  constructor
  · intro h
    obtain ⟨hjoined, hne, hapart⟩ := Text.splitOn_eq_iff.mp (rfl : Text.splitOn '/' path = _)
    exact ⟨_, ⟨hjoined, hne, hapart⟩, h⟩
  · rintro ⟨pieces, ⟨hjoined, hne, hapart⟩, h⟩
    rw [steps, Text.splitOn_eq_iff.mpr ⟨hjoined, hne, hapart⟩, h]

theorem steps_append (before behind : List Char) :
    steps (before ++ '/' :: behind) = steps before ++ steps behind := by
  rw [steps, Text.splitOn_append_cons, List.filter_append, steps, steps]

/-- The component that a step is. -/
def ofStep (step : List Char) : Component := if step = ['.', '.'] then .up else .name step

theorem ofStep_eq_name_iff {step n : List Char} :
    ofStep step = .name n ↔ step = n ∧ n ≠ ['.', '.'] := by
  rw [ofStep]
  split
  case isTrue h => exact ⟨(nomatch ·), fun h' => absurd (h'.1 ▸ h) h'.2⟩
  case isFalse h =>
    rw [Component.name.injEq]
    exact ⟨fun h' => ⟨h', h' ▸ h⟩, And.left⟩

theorem ofPiece?_eq (piece : List Char) :
    ofPiece? piece = if isStep piece then some (ofStep piece) else none := by
  rw [ofPiece?, ofStep]
  by_cases h : piece = [] ∨ piece = ['.']
  · rw [if_pos h, if_neg (by simp [isStep, h])]
  · have hstep : isStep piece = true := by simp [isStep, h]
    rw [if_neg h, hstep, if_pos rfl, apply_ite some]

theorem filterMap_ofPiece? (pieces : List (List Char)) :
    pieces.filterMap ofPiece? = (pieces.filter isStep).map ofStep := by
  induction pieces with
  | nil => rfl
  | cons p ps ih =>
      rw [List.filterMap_cons, List.filter_cons, ofPiece?_eq, ih]
      cases isStep p <;> rfl

/-- What can stand in front of the steps. -/
theorem exists_components_eq (path : List Char) :
    ∃ start, (start = [] ∨ start = [.root] ∨ start = [.here])
      ∧ components path = start ++ (steps path).map ofStep := by
  rw [steps, ← filterMap_ofPiece?, components]
  cases Text.splitOn '/' path with
  | nil => exact ⟨[], .inl rfl, rfl⟩
  | cons first rest =>
      dsimp only
      rw [List.filterMap_cons]
      split
      case isTrue hfirst =>
        subst hfirst
        split
        case isTrue hrest => exact ⟨[], .inl rfl, by rw [hrest]; rfl⟩
        case isFalse _ => exact ⟨[.root], .inr (.inl rfl), rfl⟩
      case isFalse hfirst =>
        split
        case isTrue hdot =>
          subst hdot
          exact ⟨[.here], .inr (.inr rfl), rfl⟩
        case isFalse hdot =>
          refine ⟨[], .inl rfl, ?_⟩
          cases ofPiece? first <;> rfl

/-- The last two components of a path are names exactly if the last two steps are. -/
theorem names_iff : parentName? path = some dir ∧ fileName? path = some file ↔
    ∃ front, components path = front ++ [.name dir, .name file] := by
  rw [parentName?, fileName?]
  generalize components path = cs
  constructor
  · rintro ⟨hparent, hfile⟩
    obtain ⟨init, rfl⟩ : ∃ init, cs = init ++ [.name file] := by
      split at hfile
      case h_1 n hlast =>
        obtain rfl := Option.some.inj hfile
        exact List.getLast?_eq_some_iff.mp hlast
      case h_2 => cases hfile
    rw [List.reverse_append, List.reverse_singleton, List.singleton_append] at hparent
    split at hparent
    case h_1 heq => cases (List.cons.inj heq).1
    case h_2 _ n rest _ heq =>
      obtain rfl := Option.some.inj hparent
      rw [List.reverse_eq_iff.mp (List.cons.inj heq).2]
      exact ⟨rest.reverse, by simp⟩
    case h_3 => cases hparent
  · rintro ⟨front, rfl⟩
    simp

theorem components_iff_steps :
    (∃ front, components path = front ++ [.name dir, .name file]) ↔
      dir ≠ ['.', '.'] ∧ file ≠ ['.', '.'] ∧ ∃ front, steps path = front ++ [dir, file] := by
  obtain ⟨start, hstart, heq⟩ := exists_components_eq path
  rw [heq]
  constructor
  · rintro ⟨front, h⟩
    -- the start is no name, so the two names are among the steps
    obtain ⟨front', hsteps⟩ :
        ∃ front', (steps path).map ofStep = front' ++ [.name dir, .name file] := by
      rcases hstart with rfl | rfl | rfl
      · exact ⟨front, h⟩
      · cases front with
        | nil => cases h
        | cons c front => exact ⟨front, (List.cons.inj h).2⟩
      · cases front with
        | nil => cases h
        | cons c front => exact ⟨front, (List.cons.inj h).2⟩
    obtain ⟨first, last, hsplit, -, hlast⟩ := List.map_eq_append_iff.mp hsteps
    obtain ⟨d, last, rfl, hd, hlast⟩ := List.map_eq_cons_iff.mp hlast
    obtain ⟨f, last, rfl, hf, hlast⟩ := List.map_eq_cons_iff.mp hlast
    obtain rfl := List.map_eq_nil_iff.mp hlast
    obtain ⟨rfl, hdir⟩ := ofStep_eq_name_iff.mp hd
    obtain ⟨rfl, hfile⟩ := ofStep_eq_name_iff.mp hf
    exact ⟨hdir, hfile, first, hsplit⟩
  · rintro ⟨hdir, hfile, front, h⟩
    refine ⟨start ++ front.map ofStep, ?_⟩
    rw [h, List.map_append, List.append_assoc, List.map_cons, List.map_cons, List.map_nil,
      ofStep_eq_name_iff.mpr ⟨rfl, hdir⟩, ofStep_eq_name_iff.mpr ⟨rfl, hfile⟩]

end Path

/-! ## File names -/

/-- A file name without its last extension; a dot in front starts none. -/
inductive Stem (file : List Char) : List Char → Prop where
  | whole (h : '.' ∉ file.tail) : Stem file file
  | cut {stem extension : List Char} (hfile : file = stem ++ '.' :: extension) (hne : stem ≠ [])
      (h : '.' ∉ extension) : Stem file stem

/-- The digits of a hash. -/
def hexDigits : List Char := "0123456789abcdefABCDEF".toList

/-- A file name that is, but for its extension, a name, a dash and sixteen digits. -/
def IsHashed (file : List Char) : Prop :=
  ∃ name hash, Stem file (name ++ '-' :: hash) ∧ name ≠ [] ∧ hash.length = 16
    ∧ ∀ c ∈ hash, c ∈ hexDigits

variable {file stem : List Char}

theorem Path.dropExtension_of_stem (h : Stem file stem) : dropExtension file = stem := by
  rw [dropExtension]
  cases h with
  | whole h =>
      cases file with
      | nil => rfl
      | cons c r =>
          rw [List.tail_cons] at h
          rw [Text.splitLast?, Text.splitLast?_eq_none_iff.mpr h]
          by_cases hc : c = '.'
          · rw [if_pos hc]
          · rw [if_neg hc]
  | cut hfile hne h =>
      rw [hfile, Text.splitLast?_append h]
      cases stem with
      | nil => exact absurd rfl hne
      | cons c r => rfl

theorem Path.stem_dropExtension (file : List Char) : Stem file (dropExtension file) := by
  rw [dropExtension]
  split
  case h_1 behind hcut =>
    obtain ⟨rfl, hlast⟩ := Text.splitLast?_eq_some_iff.mp hcut
    exact .whole hlast
  case h_2 before behind hbefore hcut =>
    obtain ⟨hfile, hlast⟩ := Text.splitLast?_eq_some_iff.mp hcut
    exact .cut hfile hbefore hlast
  case h_3 hnone =>
    exact .whole fun h => Text.splitLast?_eq_none_iff.mp hnone (List.mem_of_mem_tail h)

theorem Path.dropExtension_eq_iff : dropExtension file = stem ↔ Stem file stem :=
  ⟨fun h => h ▸ stem_dropExtension file, dropExtension_of_stem⟩

theorem isHexDigit_iff {c : Char} : isHexDigit c = true ↔ c ∈ hexDigits := by
  have hsmall : ∀ n < 128, isHexDigit (Char.ofNat n) = decide (Char.ofNat n ∈ hexDigits) := by
    decide +kernel
  by_cases hc : c.toNat < 128
  · have h := hsmall c.toNat hc
    rw [Char.ofNat_toNat] at h
    rw [h, decide_eq_true_iff]
  · -- all digits are ASCII characters
    have hall : hexDigits.all (fun d => decide (d.toNat < 128)) = true := by decide +kernel
    have hmem : c ∈ hexDigits → c.toNat < 128 := fun h =>
      of_decide_eq_true (List.all_eq_true.mp hall c h)
    refine iff_of_false ?_ (mt hmem hc)
    simp only [isHexDigit, Bool.or_eq_true, Bool.and_eq_true, decide_eq_true_eq, Char.le_def,
      UInt32.le_iff_toNat_le]
    have hval : ∀ k < 128, ¬c.val.toNat ≤ k := fun k hk h => hc (Nat.lt_of_le_of_lt h hk)
    rintro ((⟨-, h⟩ | ⟨-, h⟩) | ⟨-, h⟩)
    · exact hval _ (by decide) h
    · exact hval _ (by decide) h
    · exact hval _ (by decide) h

theorem isHashedName_iff : isHashedName stem = true ↔
    ∃ name hash, stem = name ++ '-' :: hash ∧ name ≠ [] ∧ hash.length = 16
      ∧ ∀ c ∈ hash, c ∈ hexDigits := by
  rw [isHashedName]
  constructor
  · intro h
    split at h
    case h_1 name hash hcut =>
      obtain ⟨hstem, -⟩ := Text.splitLast?_eq_some_iff.mp hcut
      simp only [Bool.and_eq_true, Bool.not_eq_true', List.isEmpty_eq_false_iff, beq_iff_eq,
        List.all_eq_true, isHexDigit_iff] at h
      exact ⟨name, hash, hstem, h.1.1, h.1.2, h.2⟩
    case h_2 => cases h
  · rintro ⟨name, hash, rfl, hne, hlen, hhex⟩
    -- no digit is a dash, so the hash is what follows the last one
    have hlast : '-' ∉ hash := fun h => absurd (hhex _ h) (by decide)
    rw [Text.splitLast?_append hlast]
    simpa [hne, hlen, isHexDigit_iff, hashLength] using hhex

/-! ## The grammar -/

theorem isHashedName_dropExtension :
    isHashedName (Path.dropExtension file) = true ↔ IsHashed file := by
  rw [isHashedName_iff, IsHashed]
  simp only [Path.dropExtension_eq_iff]

variable {path path' : String}

/-- **A test binary's last two steps are `deps` and a hashed name.** -/
theorem isTestBinary_iff : isTestBinary path = true ↔
    ∃ front file, Path.steps path.toList = front ++ ["deps".toList, file] ∧ IsHashed file := by
  rw [isTestBinary, Bool.and_eq_true, beq_iff_eq, Path.stem?]
  constructor
  · rintro ⟨hparent, hstem⟩
    cases hfile : Path.fileName? path.toList with
    | none =>
        rw [hfile] at hstem
        cases hstem
    | some file =>
        rw [hfile] at hstem
        have hnames := Path.names_iff.mp ⟨hparent, hfile⟩
        obtain ⟨-, -, front, hsteps⟩ := Path.components_iff_steps.mp hnames
        exact ⟨front, file, hsteps, isHashedName_dropExtension.mp hstem⟩
  · rintro ⟨front, file, hsteps, hhashed⟩
    have hname : file ≠ ['.', '.'] := by
      rintro rfl
      exact absurd (isHashedName_dropExtension.mpr hhashed) (by decide)
    obtain ⟨hparent, hfile⟩ := Path.names_iff.mpr
      (Path.components_iff_steps.mpr ⟨by decide, hname, front, hsteps⟩)
    rw [hfile]
    exact ⟨hparent, isHashedName_dropExtension.mpr hhashed⟩

theorem isTestBinary_congr (h : Path.steps path.toList = Path.steps path'.toList) :
    isTestBinary path = isTestBinary path' := by
  rw [Bool.eq_iff_iff, isTestBinary_iff, isTestBinary_iff, h]

/-- A slash, or a slash and a dot. -/
def IsRedundant (text : String) : Prop := text = "/" ∨ text = "/."

theorem steps_append_redundant {text : String} (h : IsRedundant text) (before : List Char) :
    Path.steps (before ++ text.toList) = Path.steps before := by
  rcases h with rfl | rfl
  · exact (Path.steps_append before []).trans (List.append_nil _)
  · exact (Path.steps_append before ['.']).trans (List.append_nil _)

/--
**A test runner is recognised exactly by the grammar of its path.**

Arguments are those of a test runner exactly if there are any, the path of the program
has at least two steps, the last but one is `deps`, and the last is, but for its
extension, a name, a dash and sixteen hexadecimal digits. The other arguments do not
matter, and neither do slashes, with or without a dot behind them, that are put in front
of a slash or at the end of the path.
-/
theorem isTestRunner_iff_grammar :
    (∀ arguments, isTestRunner arguments = true ↔
        ∃ program rest front file, arguments = program :: rest
          ∧ Steps program.toList (front ++ ["deps".toList, file]) ∧ IsHashed file)
      ∧ (∀ program rest rest', isTestRunner (program :: rest) = isTestRunner (program :: rest'))
      ∧ (∀ before text behind rest, IsRedundant text →
          isTestRunner ((before ++ text ++ "/" ++ behind) :: rest)
            = isTestRunner ((before ++ "/" ++ behind) :: rest))
      ∧ ∀ path text rest, IsRedundant text →
          isTestRunner ((path ++ text) :: rest) = isTestRunner (path :: rest) := by
  refine ⟨fun arguments => ?_, fun _ _ _ => rfl, fun before text behind rest h => ?_,
    fun path text rest h => ?_⟩
  · simp only [← Path.steps_eq_iff]
    cases arguments with
    | nil => simp [isTestRunner]
    | cons program rest =>
        rw [isTestRunner, isTestBinary_iff]
        constructor
        · rintro ⟨front, file, hsteps, hhashed⟩
          exact ⟨program, rest, front, file, rfl, hsteps, hhashed⟩
        · rintro ⟨_, _, front, file, heq, hsteps, hhashed⟩
          obtain ⟨rfl, rfl⟩ := List.cons.inj heq
          exact ⟨front, file, hsteps, hhashed⟩
  · have hslash : ∀ s : String, (s ++ "/" ++ behind).toList = s.toList ++ '/' :: behind.toList := by
      simp
    refine isTestBinary_congr ?_
    rw [hslash, hslash, Path.steps_append, Path.steps_append, String.toList_append,
      steps_append_redundant h]
  · refine isTestBinary_congr ?_
    rw [String.toList_append, steps_append_redundant h]

/-- A name with dashes, a dot and an extension, in a path with more slashes than it needs. -/
theorem isTestRunner_iff_grammar_untidy :
    isTestRunner ["./target//deps" ++ "/." ++ "/" ++ "my-tool.x-00ff00FF00ff00ff.exe", "--exact"]
        = true
      ∧ isTestRunner ["./target//deps/my-tool.x-00ff00FF00ff00ff.exe" ++ "/"] = true := by
  obtain ⟨hgrammar, hrest, hbetween, hend⟩ := isTestRunner_iff_grammar
  have hhashed : IsHashed "my-tool.x-00ff00FF00ff00ff.exe".toList :=
    isHashedName_dropExtension.mp (by decide +kernel)
  have hsteps : Steps "./target//deps/my-tool.x-00ff00FF00ff00ff.exe".toList
      (["target".toList] ++ ["deps".toList, "my-tool.x-00ff00FF00ff00ff.exe".toList]) :=
    Path.steps_eq_iff.mp (by decide +kernel)
  have htidy : isTestRunner ["./target//deps/my-tool.x-00ff00FF00ff00ff.exe"] = true :=
    (hgrammar _).mpr ⟨_, _, _, _, rfl, hsteps, hhashed⟩
  have hjoin : "./target//deps" ++ "/" ++ "my-tool.x-00ff00FF00ff00ff.exe"
      = "./target//deps/my-tool.x-00ff00FF00ff00ff.exe" := rfl
  constructor
  · rw [hbetween _ _ _ _ (.inr rfl), hjoin, hrest _ _ []]
    exact htidy
  · rw [hend _ _ _ (.inl rfl)]
    exact htidy

end Herald
