import Herald.Proofs.Json.Object

/-!
# Other values read back

What is written of a flag, of a text that may be missing and of a 64-bit number is read
as that. Texts, missing ones and numbers are also read as values that are kept for
later: the reader of values looks at the first character and then reads what the reader
of a known kind reads, so what is kept is what was written.
-/

namespace Herald.Json

/-! ## Flags and missing texts -/

theorem startsValue_writeBool (b : Bool) : StartsValue (writeBool b) := by
  cases b with
  | true => exact ⟨'t', _, rfl, by decide⟩
  | false => exact ⟨'f', _, rfl, by decide⟩

theorem boolean_writeBool (b : Bool) (rest : List Char) :
    boolean (writeBool b ++ rest) = .ok (b, rest) := by
  cases b with
  | true => rfl
  | false => rfl

theorem startsValue_writeOptional (t : Option String) : StartsValue (writeOptional quote t) := by
  cases t with
  | none => exact ⟨'n', _, rfl, by decide⟩
  | some s => exact startsValue_quote s

/-- **A missing text is read as missing, and an empty one as empty.** -/
theorem optional_writeOptional (t : Option String) (rest : List Char) :
    optional string (writeOptional quote t ++ rest) = .ok (t, rest) := by
  cases t with
  | none => rfl
  | some s => exact congrArg (Parsed.map some) (string_quote s rest)

/-! ## Values that are kept -/

/-- The value of a text that may be missing. -/
def Value.ofText? : Option String → Value
  | none => .null
  | some s => .text s

section Kept

variable {fuel depth : Nat} {rest : List Char}

theorem readValue_writeOptional (t : Option String) :
    readValue (fuel + 1) depth (writeOptional quote t ++ rest) = .ok (.ofText? t, rest) := by
  cases t with
  | none => rfl
  | some s =>
      have hsplit : quote s ++ rest = '"' :: (escape s.toList ++ '"' :: rest) := by simp [quote]
      rw [writeOptional, hsplit, readValue, readText_escape, Parsed.map, String.ofList_toList,
        Value.ofText?]

/-- What starts with a digit is kept as a number. -/
theorem readValue_of_isDigit {d : Char} {r : List Char} (h : isDigit d = true) :
    readValue (fuel + 1) depth (d :: r) = (readNumber (d :: r)).map .number := by
  rw [readValue]
  · exact if_pos (by simp [startsNumber, h])
  all_goals
    rintro rfl
    exact absurd h (by decide)

/-- **A 64-bit number is kept as it was written.** -/
theorem readValue_writeUInt64 (n : UInt64) (hr : StopsNumber rest) :
    readValue (fuel + 1) depth (Wire.writeUInt64 n ++ rest)
      = .ok (.number (.natural n), rest) := by
  have hread := readUnsigned_writeNat n.toNat_lt hr
  rw [UInt64.ofNat_toNat, ← writeNat_eq] at hread
  obtain ⟨d, r, hcs, hd⟩ := isDigit_of_readUnsigned hread
  have hnumber := readNumber_of_readUnsigned hread
  rw [Wire.writeUInt64]
  rw [hcs] at hnumber ⊢
  rw [readValue_of_isDigit hd, hnumber, Parsed.map]

end Kept

end Herald.Json
