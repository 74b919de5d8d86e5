import Herald.Level.Registry
import Herald.Text.Numeral

/-!
# Levels from text

A threshold is written as a rank or as a name. The numeral is tried first, on
the trimmed text; what is not a 32-bit numeral is looked up as a name. An
unknown text is reported as it was given, blanks included.
-/

namespace Herald

/-- Ranks are below this. -/
def rankLimit : Nat := 1 <<< 32

/-- The rank that a numeral spells. -/
def Level.ofNumeral? (text : String) : Option Level :=
  (Text.Numeral.read? rankLimit (Text.trim text)).map fun n => ⟨UInt32.ofNat n⟩

/-- The level that a text names in a registry. -/
def Level.parse (r : Registry) (text : String) : Except LevelError Level :=
  match Level.ofNumeral? text with
  | some l => .ok l
  | none =>
    match r.byName? text with
    | some l => .ok l
    | none => .error (.unknown text)

end Herald
