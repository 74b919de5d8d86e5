import Herald.Decimal.Binary

/-!
# Shortest decimals

Every float is written with the fewest digits that read back as the same float.
Of several such decimals the nearest to the float is taken, and of two equally
near the one with the even last digit.

The search goes through the decimal grids from one digit to seventeen. On each
grid only the two neighbours of the float can lie in the interval of reals that
round to it; its ends belong to it when the mantissa is even. Everything is
computed in natural numbers.
-/

namespace Herald.Decimal

/-- The decimal `digits · 10^exponent`. -/
structure Scaled where
  digits : Nat
  exponent : Int
deriving DecidableEq

/-- The number of decimal digits of a natural number, at least one. -/
def digitCount (n : Nat) : Nat := (toString n).length

/-- The largest `e` with `10^e ≤ m`, for a positive magnitude. -/
def leadingExponent (m : Magnitude) : Int :=
  let r := ratio m.mantissa m.exponent 0
  if r.den ≤ r.num then (digitCount (r.num / r.den) : Int) - 1
  else
    let up := digitCount (r.den / r.num)
    if r.den ≤ r.num * Nat.pow 10 (up - 1) then -((up : Int) - 1) else -(up : Int)

/--
The decimal of the grid `10^k` that reads back as the magnitude and is nearest
to it, if there is one. Quarters of the last mantissa bit are counted, so that
the ends of the interval are whole numbers too.
-/
def onGrid? (m : Magnitude) (k : Int) : Option Nat :=
  let e := m.exponent - 2
  let value := ratio (4 * m.mantissa) e k
  let low := (ratio (4 * m.mantissa - (if m.narrowBelow then 1 else 2)) e k).num
  let high := (ratio (4 * m.mantissa + 2) e k).num
  let inside (c : Nat) : Bool :=
    let x := c * value.den
    if m.mantissa % 2 = 0 then low ≤ x && x ≤ high else low < x && x < high
  let c := value.num / value.den
  let below := value.num - c * value.den
  let above := (c + 1) * value.den - value.num
  match inside c, inside (c + 1) with
  | true, true =>
    if below < above then some c
    else if above < below then some (c + 1)
    else if c % 2 = 0 then some c else some (c + 1)
  | true, false => some c
  | false, true => some (c + 1)
  | false, false => none

/-- The first grid from `n` digits on that has a decimal. -/
def searchFrom (m : Magnitude) (lead : Int) : Nat → Nat → Scaled
  | 0, n => ⟨(onGrid? m (lead - n + 1)).getD 0, lead - n + 1⟩
  | more + 1, n =>
    match onGrid? m (lead - n + 1) with
    | some d => ⟨d, lead - n + 1⟩
    | none => searchFrom m lead more (n + 1)

/-- Drops zeros at the end of the digits. `bound` limits how many. -/
def dropZeros : Nat → Scaled → Scaled
  | 0, d => d
  | bound + 1, d =>
    if d.digits ≠ 0 ∧ d.digits % 10 = 0 then dropZeros bound ⟨d.digits / 10, d.exponent + 1⟩
    else d

/-- The shortest decimal of a positive magnitude. -/
def shortest (m : Magnitude) : Scaled := dropZeros 20 (searchFrom m (leadingExponent m) 16 1)

/-! ## Writing -/

/-- How shortest decimals are laid out. -/
structure Layout where
  /-- Leading exponents from here on are written without an exponent … -/
  plainFrom : Int
  /-- … up to and including this one. -/
  plainTo : Int
  /-- What stands before a positive exponent. -/
  plus : String

/-- `n` zeros. -/
def zeros (n : Nat) : List Char := List.replicate n '0'

/-- A decimal without an exponent, with at least one digit after the point. -/
def layPlain (ds : List Char) (lead : Int) : List Char :=
  if lead < 0 then '0' :: '.' :: (zeros (-lead - 1).toNat ++ ds)
  else
    let whole := lead.toNat + 1
    if ds.length ≤ whole then ds ++ zeros (whole - ds.length) ++ ['.', '0']
    else ds.take whole ++ '.' :: ds.drop whole

/-- A decimal with an exponent, with a point only when there is more than one digit. -/
def layScientific (style : Layout) (ds : List Char) (lead : Int) : List Char :=
  let mantissa :=
    match ds with
    | [] => []
    | [d] => [d]
    | d :: rest => d :: '.' :: rest
  let exponent :=
    if lead < 0 then '-' :: (toString (-lead).toNat).toList
    else style.plus.toList ++ (toString lead.toNat).toList
  mantissa ++ 'e' :: exponent

/-- A finite float in its shortest decimal form. -/
def write (style : Layout) (x : Float) : List Char :=
  let m := magnitude x
  let unsigned :=
    if m.mantissa = 0 then ['0', '.', '0']
    else
      let d := shortest m
      let ds := (toString d.digits).toList
      let lead := d.exponent + (ds.length : Int) - 1
      if style.plainFrom ≤ lead ∧ lead ≤ style.plainTo then layPlain ds lead
      else layScientific style ds lead
  if isNegative x then '-' :: unsigned else unsigned

end Herald.Decimal
