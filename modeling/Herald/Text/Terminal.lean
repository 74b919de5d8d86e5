import Herald.Text.Hexadecimal

/-!
# Text for terminals

Some control characters make a terminal do things: escape, bell, backspace, form
feed, delete, and the eight-bit controls from U+0080 to U+009F. `defuse` writes
them out by their code points, so that a text from elsewhere is only ever shown.
Line breaks, tabs and the other controls stay, and so does a backslash: the
result is for reading, not for reading back.
-/

namespace Herald.Text

/-- The seven-bit controls that steer a terminal. -/
def terminalControls : List Char := ['\x07', '\x08', '\x0c', '\x1b', '\x7f']

/-- One character of a defused text. -/
def defuseChar (c : Char) : List Char :=
  if terminalControls.contains c then
    ['\\', 'x', hexDigit (c.toNat / 16), hexDigit (c.toNat % 16)]
  else if 0x80 ≤ c.toNat ∧ c.toNat ≤ 0x9F then
    ['\\', 'u', '\x7b'] ++ hexadecimal c.toNat ++ ['\x7d']
  else [c]

/-- The text with every control that steers a terminal written out. -/
def defuse (s : String) : String := String.ofList (s.toList.flatMap defuseChar)

end Herald.Text
