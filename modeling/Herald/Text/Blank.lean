/-!
# Blank characters

Which characters count as blank is the White_Space property of the Unicode
character database: the ASCII controls from tab to carriage return, the space,
and the seventeen separators beyond ASCII. Format characters such as the
zero-width space are not blank.

Everything that reads a name, a number or a topic trims blanks from both ends
first, so `trim` is stated on lists of characters, where it is two `dropWhile`s,
and lifted to strings.
-/

namespace Herald.Text

/-- The White_Space property. -/
def isBlank (c : Char) : Bool :=
  let n := c.toNat
  (9 ≤ n && n ≤ 13) || n == 0x20 || n == 0x85 || n == 0xA0 || n == 0x1680
    || (0x2000 ≤ n && n ≤ 0x200A) || n == 0x2028 || n == 0x2029 || n == 0x202F
    || n == 0x205F || n == 0x3000

/-- The characters left when the blanks at both ends are dropped. -/
def trimChars (cs : List Char) : List Char :=
  ((cs.dropWhile isBlank).reverse.dropWhile isBlank).reverse

/-- The text without the blanks at its ends. -/
def trim (s : String) : String := String.ofList (trimChars s.toList)

/-- A text of blanks only, the empty one included. -/
def isBlankText (s : String) : Bool := (trimChars s.toList).isEmpty

/-- ASCII letters become capitals; every other character stays. -/
def upperAscii (s : String) : String := String.ofList (s.toList.map Char.toUpper)

@[simp] theorem toList_trim (s : String) : (trim s).toList = trimChars s.toList := by
  simp [trim]

@[simp] theorem toList_upperAscii (s : String) :
    (upperAscii s).toList = s.toList.map Char.toUpper := by
  simp [upperAscii]

end Herald.Text
