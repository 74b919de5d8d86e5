/-!
# The value of a float

A finite float is a sign and a magnitude `mantissa · 2^exponent`. The mantissa
has at most 53 bits; below the smallest normal magnitude the exponent stays and
the mantissa loses bits.
-/

namespace Herald.Decimal

/-- The magnitude `mantissa · 2^exponent`. -/
structure Magnitude where
  mantissa : Nat
  exponent : Int
  /-- Whether the next float below is only half as far away as the next one above. -/
  narrowBelow : Bool
deriving DecidableEq

/-- The exponent bits of a float. -/
def exponentBits (x : Float) : Nat := x.toBits.toNat / 1 <<< 52 % 1 <<< 11

/-- The fraction bits of a float. -/
def fractionBits (x : Float) : Nat := x.toBits.toNat % 1 <<< 52

/-- Whether the sign bit is set. -/
def isNegative (x : Float) : Bool := 1 <<< 63 ≤ x.toBits.toNat

/-- The magnitude of a finite float. -/
def magnitude (x : Float) : Magnitude :=
  let e := exponentBits x
  let f := fractionBits x
  if e = 0 then ⟨f, -1074, false⟩
  else ⟨1 <<< 52 + f, (e : Int) - 1075, f = 0 ∧ e ≠ 1⟩

/-- The bits of a whole number beyond the 53 that a float has for it. -/
def excessBits (n : Nat) : Nat := n.log2 + 1 - 53

/--
The float nearest to a whole number, as a whole number again; of two that are
equally near it is the one with the even mantissa.
-/
def nearestWhole (n : Nat) : Nat :=
  let unit := 1 <<< excessBits n
  let mantissa := n / unit
  let rest := 2 * (n % unit)
  if unit < rest ∨ rest = unit ∧ mantissa % 2 = 1 then (mantissa + 1) * unit
  else mantissa * unit

/-- A fraction of natural numbers. -/
structure Ratio where
  num : Nat
  den : Nat

/-- `n · 2^e · 10^(-k)` as a fraction. -/
def ratio (n : Nat) (e k : Int) : Ratio :=
  ⟨n <<< e.toNat * Nat.pow 10 (-k).toNat, 1 <<< (-e).toNat * Nat.pow 10 k.toNat⟩

end Herald.Decimal
