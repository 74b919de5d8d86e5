import Herald.Decimal.Binary

/-!
# Decimals with a fixed number of places

The exact value of the float is rounded to the grid of the last place, and a
half goes to the even neighbour.
-/

namespace Herald.Decimal

/-- A fraction rounded to a natural number, a half to the even one. -/
def roundHalfEven (r : Ratio) : Nat :=
  let q := r.num / r.den
  let rest := 2 * (r.num % r.den)
  if rest < r.den then q
  else if r.den < rest then q + 1
  else if q % 2 = 0 then q else q + 1

/-- The digits of `n` with the last `places` of them behind a point. -/
def withPoint (places n : Nat) : String :=
  let whole := toString (n / Nat.pow 10 places)
  if places = 0 then whole
  else
    let fraction := toString (n % Nat.pow 10 places)
    whole ++ "." ++ String.ofList (List.replicate (places - fraction.length) '0') ++ fraction

/-- A finite float with this many decimal places. -/
def fixed (places : Nat) (x : Float) : String :=
  let m := magnitude x
  let digits := withPoint places (roundHalfEven (ratio m.mantissa m.exponent (-(places : Int))))
  if isNegative x then "-" ++ digits else digits

end Herald.Decimal
