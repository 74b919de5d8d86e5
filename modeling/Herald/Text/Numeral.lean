/-!
# Numerals

The numerals that people type for ranks and sizes: an optional plus sign and
then one or more ASCII digits. Leading zeros are allowed and a minus sign never
is, not even before zero. A numeral whose value does not fit below the given
limit is not read at all.

Real numerals have a sign of either kind, places and an exponent in addition, and
there are words for what is infinite or no number; `isReal` tells them from other
texts.
-/

namespace Herald.Text.Numeral

/-- The value of an ASCII digit. -/
def digit? (c : Char) : Option Nat :=
  if '0' ≤ c ∧ c ≤ '9' then some (c.toNat - '0'.toNat) else none

/-- The value of a run of digits read after `acc`; `none` when another character occurs. -/
def value? (acc : Nat) : List Char → Option Nat
  | [] => some acc
  | c :: r => (digit? c).bind fun d => value? (acc * 10 + d) r

/-- Digits, at least one. -/
def digits? : List Char → Option Nat
  | [] => none
  | cs => value? 0 cs

/-- A numeral with its optional plus sign. -/
def chars? : List Char → Option Nat
  | '+' :: r => digits? r
  | cs => digits? cs

/-- The numeral's value, if it is a numeral and its value is below `limit`. -/
def read? (limit : Nat) (s : String) : Option Nat :=
  (chars? s.toList).filter (· < limit)

/-- The words for what is infinite or no number. -/
def realWords : List (List Char) := ["INF", "INFINITY", "NAN"].map String.toList

/-- Whether a text is an exponent, or nothing. -/
def isExponent : List Char → Bool
  | [] => true
  | c :: r =>
    (c = 'e' || c = 'E')
      && (match r with
        | '+' :: r | '-' :: r | r => (digits? r).isSome)

/-- Whether a text is digits with a point among them or not, and perhaps an exponent. -/
def isScientific (cs : List Char) : Bool :=
  let isDigit (c : Char) : Bool := (digit? c).isSome
  let whole := cs.takeWhile isDigit
  let (places, rest) := match cs.dropWhile isDigit with
    | '.' :: r => (r.takeWhile isDigit, r.dropWhile isDigit)
    | r => ([], r)
  !(whole ++ places).isEmpty && isExponent rest

/-- Whether a text is a real numeral. -/
def isReal (s : String) : Bool :=
  let unsigned := match s.toList with
    | '+' :: r | '-' :: r | r => r
  isScientific unsigned || realWords.contains (unsigned.map Char.toUpper)

end Herald.Text.Numeral
