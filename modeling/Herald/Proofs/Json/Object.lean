import Herald.Proofs.Json.Number
import Herald.Proofs.Json.Text

/-!
# Objects read back

An object of a known shape is read member by member into a partial value. `Fills`
says of a list of written members that each of them is known to the shape and has not
come before, or is unknown to it, and is read as what it is to be; then the object that
consists of these members is read as the partial value that they fill, whatever follows
it.

A member's value is only ever read with a comma or the closing brace behind it, so
that is all it has to be read back before.
-/

namespace Herald.Json

/-- What can follow a value inside an object. -/
def StopsValue (rest : List Char) : Prop := rest.head? = some ',' ∨ rest.head? = some '\x7d'

theorem StopsValue.stopsNumber {rest : List Char} (h : StopsValue rest) : StopsNumber rest := by
  intro c hc
  rcases h with h | h
  · rw [h, Option.mem_some_iff] at hc
    subst hc
    decide
  · rw [h, Option.mem_some_iff] at hc
    subst hc
    decide

/-- A text that does not start with a space, and is not empty. -/
def StartsValue (value : List Char) : Prop := ∃ c r, value = c :: r ∧ isSpace c = false

theorem startsValue_quote (s : String) : StartsValue (quote s) := ⟨'"', _, rfl, by decide⟩

theorem isSpace_of_isDigit {d : Char} (h : isDigit d = true) : isSpace d = false := by
  cases hs : isSpace d with
  | false => rfl
  | true =>
      simp only [isSpace, decide_eq_true_eq] at hs
      rcases hs with rfl | rfl | rfl | rfl <;> exact absurd h (by decide)

theorem startsValue_writeNat (n : Nat) : StartsValue (writeNat n) := by
  have hdigits := digits_toDigits n
  have hne : Nat.toDigits 10 n ≠ [] := Nat.toDigits_ne_nil
  rw [writeNat_eq]
  cases hds : Nat.toDigits 10 n with
  | nil => exact absurd hds hne
  | cons d ds =>
      rw [hds] at hdigits
      exact ⟨d, ds, rfl, isSpace_of_isDigit (hdigits d List.mem_cons_self)⟩

theorem skipSpace_of_startsValue {value : List Char} (h : StartsValue value) (rest : List Char) :
    skipSpace (value ++ rest) = value ++ rest := by
  obtain ⟨c, r, rfl, hc⟩ := h
  exact List.dropWhile_cons_of_neg (by simp [hc])

/-! ## Members in order -/

/-- The written members fill the partial value, from the first to the last. -/
inductive Fills {α : Type} (shape : Shape α) (depth : Nat) :
    α → List (String × List Char) → α → Prop where
  | done (a : α) : Fills shape depth a [] a
  | member {a a' a'' : α} {m : Member α} {value : List Char} {rest : List (String × List Char)} :
      shape.members.find? (fun k => k.key = m.key) = some m →
      m.isFilled a = false →
      StartsValue value →
      (∀ r, StopsValue r → m.read depth a (value ++ r) = .ok (a', r)) →
      Fills shape depth a' rest a'' →
      Fills shape depth a ((m.key, value) :: rest) a''
  | unknown {a a' a'' : α} {key : String} {value : List Char} {rest : List (String × List Char)} :
      shape.members.find? (fun k => k.key = key) = none →
      StartsValue value →
      (∀ r, StopsValue r → shape.unknown key depth a (value ++ r) = .ok (a', r)) →
      Fills shape depth a' rest a'' →
      Fills shape depth a ((key, value) :: rest) a''

/-- Members with a comma in front of each. -/
def furtherMembers (members : List (String × List Char)) : List Char :=
  members.flatMap fun m => ',' :: writeMember m.1 m.2

theorem commaSeparated_cons (v : List Char) (vs : List (List Char)) :
    commaSeparated (v :: vs) = v ++ vs.flatMap (',' :: ·) := by
  induction vs generalizing v with
  | nil => simp [commaSeparated]
  | cons w vs ih => rw [commaSeparated, ih w, List.flatMap_cons, List.cons_append]; simp

theorem stopsValue_furtherMembers (members : List (String × List Char)) (rest : List Char) :
    StopsValue (furtherMembers members ++ '\x7d' :: rest) := by
  cases members with
  | nil => exact Or.inr rfl
  | cons m members => exact Or.inl rfl

section Members

variable {α : Type} {shape : Shape α} {depth : Nat} {a a' : α} {key : String} {value : List Char}
  {members : List (String × List Char)} {rest : List Char}

theorem afterColon_of_startsValue (h : StartsValue value) (rest : List Char) :
    afterColon (':' :: (value ++ rest)) = .ok (value ++ rest) := by
  have hcolon : skipSpace (':' :: (value ++ rest)) = ':' :: (value ++ rest) :=
    List.dropWhile_cons_of_neg (by decide)
  rw [afterColon, hcolon]
  exact congrArg Except.ok (skipSpace_of_startsValue h rest)

/-- What the first member does, and that the others do the rest. -/
theorem Fills.readMember (h : Fills shape depth a ((key, value) :: members) a') :
    ∃ b, (∀ r, StopsValue r → shape.readMember depth key a (':' :: (value ++ r)) = .ok (b, r))
      ∧ Fills shape depth b members a' := by
  cases h with
  | @member _ b _ m _ _ hm hfree hstart hread htail =>
      refine ⟨b, fun r hr => ?_, htail⟩
      rw [Shape.readMember, hm]
      dsimp only
      rw [hfree, if_neg (by simp), afterColon_of_startsValue hstart]
      exact hread r hr
  | @unknown _ b _ _ _ _ hm hstart hread htail =>
      refine ⟨b, fun r hr => ?_, htail⟩
      rw [Shape.readMember, hm]
      dsimp only
      rw [afterColon_of_startsValue hstart]
      exact hread r hr

/-- One member of an object. -/
theorem readMembers_step {cs : List Char} (fuel : Nat) (first : Bool)
    (hone : shape.readMember depth key a (':' :: (value ++ cs)) = .ok (a', cs)) :
    shape.readMembers depth (fuel + 1) first a
        ((if first then [] else [',']) ++ writeMember key value ++ cs)
      = shape.readMembers depth fuel false a' cs := by
  have hkey : nextKey first ((if first then [] else [',']) ++ writeMember key value ++ cs)
      = .ok (.item (escape key.toList ++ '"' :: ':' :: (value ++ cs))) := by
    cases first with
    | true => simp [writeMember, quote, nextKey, skipSpace, isSpace]
    | false => simp [writeMember, quote, nextKey, skipSpace, isSpace]
  rw [Shape.readMembers, hkey]
  dsimp only
  rw [readText_escape]
  dsimp only [Parsed.andThen]
  rw [String.ofList_toList, hone]

/-- **Members that fill a partial value are read as that.** -/
theorem readMembers_of_fills (h : Fills shape depth a members a') {fuel : Nat}
    (hfuel : members.length < fuel) :
    shape.readMembers depth fuel false a (furtherMembers members ++ '\x7d' :: rest)
      = .ok (a', rest) := by
  obtain ⟨fuel, rfl⟩ := Nat.exists_eq_succ_of_ne_zero (Nat.ne_of_gt (Nat.zero_lt_of_lt hfuel))
  induction members generalizing a fuel with
  | nil =>
      cases h
      rfl
  | cons m ms ih =>
      obtain ⟨b, hone, htail⟩ := h.readMember
      have hstep := readMembers_step fuel false (hone _ (stopsValue_furtherMembers ms rest))
      have hsplit : furtherMembers (m :: ms) ++ '\x7d' :: rest
          = [','] ++ writeMember m.1 m.2 ++ (furtherMembers ms ++ '\x7d' :: rest) := by
        simp [furtherMembers]
      rw [List.length_cons] at hfuel
      obtain ⟨fuel, rfl⟩ := Nat.exists_eq_succ_of_ne_zero (n := fuel) (by omega)
      rw [hsplit]
      exact hstep.trans (ih htail fuel (by omega))

/-- An object whose members fill the blank value is read as that. -/
theorem readObject_of_fills {blank : α} (rest : List Char) (hdepth : 1 < depth)
    (h : Fills shape (depth - 1) blank members a') :
    shape.readObject blank depth (writeObject members ++ rest) = .ok (a', rest) := by
  have henter : enter depth = .ok (depth - 1) := if_neg (Nat.not_le.mpr hdepth)
  have hlong : ∀ ms : List (String × List Char), ms.length ≤ (furtherMembers ms).length := by
    intro ms
    induction ms with
    | nil => exact Nat.le_refl _
    | cons m ms ih =>
        rw [furtherMembers, List.flatMap_cons, List.length_append]
        change _ ≤ _ + (furtherMembers ms).length
        simp only [List.length_cons]
        omega
  rw [writeObject, List.cons_append, Shape.readObject]
  · rw [henter]
    dsimp only
    cases members with
    | nil =>
        cases h
        rfl
    | cons m ms =>
        obtain ⟨b, hone, htail⟩ := h.readMember
        have hsplit : commaSeparated ((m :: ms).map fun m => writeMember m.1 m.2)
              ++ ['\x7d'] ++ rest
            = writeMember m.1 m.2 ++ (furtherMembers ms ++ '\x7d' :: rest) := by
          simp [commaSeparated_cons, furtherMembers, List.flatMap_map]
        rw [hsplit]
        have hstep := readMembers_step
          (writeMember m.1 m.2 ++ (furtherMembers ms ++ '\x7d' :: rest)).length true
          (hone _ (stopsValue_furtherMembers ms rest))
        refine Eq.trans hstep (readMembers_of_fills htail ?_)
        have := hlong ms
        simp only [List.length_append, List.length_cons]
        omega

end Members

/-! ## Whole values -/

section Whole

variable {α β : Type} {shape : Shape α} {blank filled : α} {whole : α → Option β} {b : β}
  {members : List (String × List Char)}

/-- **An object is read as what stands for the members that it has.** -/
theorem finish_of_fills {depth : Nat} (rest : List Char) (hdepth : 1 < depth)
    (h : Fills shape (depth - 1) blank members filled) (hb : whole filled = some b) :
    (shape.readObject blank depth (writeObject members ++ rest)).finish whole = .ok (b, rest) := by
  rw [readObject_of_fills rest hdepth h, Parsed.finish, Parsed.andThen, hb]

/-- **An object that is the whole text is read as what stands for its members.** -/
theorem readAll_of_fills (h : Fills shape (nestingLimit - 1) blank members filled)
    (hb : whole filled = some b) :
    readAll (fun cs => (shape.read blank nestingLimit cs).finish whole)
      (String.ofList (writeObject members)) = .ok b := by
  have hread : shape.read blank nestingLimit (writeObject members)
      = shape.readObject blank nestingLimit (writeObject members) := rfl
  have hskip : skipSpace (writeObject members) = writeObject members := rfl
  have hobject := finish_of_fills [] (show 1 < nestingLimit by decide) h hb
  rw [List.append_nil] at hobject
  rw [readAll, String.toList_ofList, hskip, hread, hobject]
  exact if_pos rfl

end Whole

/-- A member that is filled with what its own reader gives. -/
theorem Fills.of_member {α β : Type} {shape : Shape α} {depth : Nat} {key : String}
    {get : α → Option β} {set : α → β → α} {read : Nat → Reader β} {a a' : α} {b : β}
    {value : List Char} {rest : List (String × List Char)}
    (hm : shape.members.find? (fun k => k.key = key) = some (Wire.member key get set read))
    (hfree : get a = none) (hstart : StartsValue value)
    (hread : ∀ r, StopsValue r → read depth (value ++ r) = .ok (b, r))
    (htail : Fills shape depth (set a b) rest a') :
    Fills shape depth a ((key, value) :: rest) a' := by
  refine .member (m := Wire.member key get set read) hm ?_ hstart (fun r hr => ?_) htail
  · exact Option.isSome_eq_false_iff.mpr (Option.isNone_iff_eq_none.mpr hfree)
  · exact congrArg (Parsed.map (set a)) (hread r hr)

end Herald.Json
