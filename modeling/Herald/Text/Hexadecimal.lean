/-!
# Hexadecimal digits

Digits are written in lower case and read in either case.
-/

namespace Herald.Text

/-- A hexadecimal digit, in lower case. -/
def hexDigit (n : Nat) : Char := if n < 10 then Char.ofNat (48 + n) else Char.ofNat (87 + n)

/-- The value of a hexadecimal digit. -/
def hexValue? (c : Char) : Option Nat :=
  if '0' ≤ c ∧ c ≤ '9' then some (c.toNat - 48)
  else if 'a' ≤ c ∧ c ≤ 'f' then some (c.toNat - 87)
  else if 'A' ≤ c ∧ c ≤ 'F' then some (c.toNat - 55)
  else none

/-- A number in hexadecimal, without leading zeros. -/
def hexadecimal (n : Nat) : List Char := Nat.toDigits 16 n

end Herald.Text
