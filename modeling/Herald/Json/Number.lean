import Herald.Json.Basic
import Herald.Text.Numeral

/-!
# JSON numbers

A number without fraction and exponent that fits 64 bits is kept exactly. Every
other number is a float: the digits are taken into a 64-bit significand as long
as they fit, the remaining ones only count for the exponent, and the float is
the significand times or over a power of ten, each step rounded once. Minus zero
is a float too. A number beyond the range of floats is malformed.
-/

namespace Herald.Json

/-- A number as it was written. -/
inductive Number where
  | natural (n : UInt64)
  /-- The negative of a magnitude between 1 and 2^63. -/
  | negative (magnitude : UInt64)
  | real (x : Float)
deriving DecidableEq

namespace Number

/-- The number as a float. -/
def toFloat : Number → Float
  | .natural n => n.toFloat
  | .negative n => -n.toFloat
  | .real x => x

/-- The number as a rank or a line, if it is one. -/
def toUInt32? : Number → Option UInt32
  | .natural n => if n.toNat < 1 <<< 32 then some n.toUInt32 else none
  | _ => none

/-- The number as a size, if it is one. -/
def toUInt64? : Number → Option UInt64
  | .natural n => some n
  | _ => none

end Number

/-! ## From significand and exponent to a float -/

/-- The largest significand. -/
def significandLimit : Nat := 1 <<< 64

/-- A power of ten between 1 and 10^308. -/
def powerOfTen (e : Nat) : Float := Float.ofScientific 1 false e

/-- `x` over a power of ten, in steps of at most 10^308. `steps` bounds their number. -/
def scaleDown : Nat → Float → Nat → Float
  | 0, x, e => x / powerOfTen e
  | steps + 1, x, e =>
    if e ≤ 308 then x / powerOfTen e
    else if x == 0 then x
    else scaleDown steps (x / powerOfTen 308) (e - 308)

/-- The float `significand · 10^exponent`, if it is finite. -/
def scale (significand : Nat) (exponent : Int) : Except Fault Float :=
  let x := (UInt64.ofNat significand).toFloat
  match exponent with
  | .ofNat e =>
    if e ≤ 308 then
      let y := x * powerOfTen e
      if y.isInf then .error .malformed else .ok y
    else if x == 0 then .ok x else .error .malformed
  | .negSucc e => .ok (scaleDown ((e + 1) / 308) x (e + 1))

/-! ## Reading -/

/-- Whether a character is a digit. -/
def isDigit (c : Char) : Bool := '0' ≤ c && c ≤ '9'

/-- The value of a digit. -/
def digitValue (c : Char) : Nat := c.toNat - 48

/--
Takes digits into a significand as long as it stays below the limit; gives it
with the number of digits that did not fit. Once one does not fit, none after it
is taken.
-/
def absorb (acc : Nat) : List Char → Nat × Nat
  | [] => (acc, 0)
  | d :: ds =>
    if acc * 10 + digitValue d < significandLimit then absorb (acc * 10 + digitValue d) ds
    else (acc, ds.length + 1)

/-- A float with the sign it was written with. -/
def signed (minus : Bool) (x : Float) : Number := .real (if minus then -x else x)

/-- The float of a significand and an exponent, with its sign. -/
def finishReal (minus : Bool) (significand : Nat) (exponent : Int) : Reader Number := fun rest =>
  match scale significand exponent with
  | .ok x => .ok (signed minus x, rest)
  | .error e => .error e

/-- The largest exponent whose value matters; beyond it a number is zero or out of range. -/
def exponentLimit : Nat := 1 <<< 31

/-- The value of a run of digits. -/
def digitsValue (ds : List Char) : Nat := ds.foldl (fun n d => n * 10 + digitValue d) 0

/-- What follows the letter of an exponent. -/
def readExponent (minus : Bool) (significand : Nat) (exponent : Int) : Reader Number := fun cs =>
  let (down, cs) :=
    match cs with
    | '+' :: r => (false, r)
    | '-' :: r => (true, r)
    | _ => (false, cs)
  match cs.takeWhile isDigit, cs.dropWhile isDigit with
  | [], [] => .error .truncated
  | [], _ :: _ => .error .malformed
  | ds, rest =>
    let n := digitsValue ds
    if n < exponentLimit then
      finishReal minus significand (if down then exponent - n else exponent + n) rest
    else if significand = 0 ∨ down then .ok (signed minus 0, rest)
    else .error .malformed

/-- What follows the point of a fraction. -/
def readFraction (minus : Bool) (significand : Nat) (exponent : Int) : Reader Number := fun cs =>
  match cs.takeWhile isDigit, cs.dropWhile isDigit with
  | [], [] => .error .truncated
  | [], _ :: _ => .error .malformed
  | ds, rest =>
    let (significand, left) := absorb significand ds
    let exponent := exponent - (ds.length - left : Nat)
    match rest with
    | 'e' :: r => readExponent minus significand exponent r
    | 'E' :: r => readExponent minus significand exponent r
    | _ => finishReal minus significand exponent rest

/-- An integer that fits 64 bits with its sign, or else the nearest float. -/
def ofInteger (minus : Bool) (n : Nat) : Number :=
  if !minus then .natural (UInt64.ofNat n)
  else if n = 0 ∨ 1 <<< 63 < n then .real (-(UInt64.ofNat n).toFloat)
  else .negative (UInt64.ofNat n)

/-- A number behind its sign. -/
def readUnsigned (minus : Bool) : Reader Number := fun cs =>
  match cs.takeWhile isDigit, cs.dropWhile isDigit with
  | [], [] => .error .truncated
  | [], _ :: _ => .error .malformed
  | '0' :: _ :: _, _ => .error .malformed
  | ds, rest =>
    let (significand, left) := absorb 0 ds
    match rest with
    | '.' :: r => readFraction minus significand left r
    | 'e' :: r => readExponent minus significand left r
    | 'E' :: r => readExponent minus significand left r
    | _ =>
      if left = 0 then .ok (ofInteger minus significand, rest)
      else finishReal minus significand left rest

/-- A number. -/
def readNumber : Reader Number
  | '-' :: r => readUnsigned true r
  | cs => readUnsigned false cs

/-- Whether a number starts with this character. -/
def startsNumber (c : Char) : Bool := c = '-' || isDigit c

/-! ## Passing over a number -/

/-- What is left behind the exponent of a number nobody wants. -/
def skipExponent (cs : List Char) : Except Fault (List Char) :=
  let cs :=
    match cs with
    | '+' :: r => r
    | '-' :: r => r
    | _ => cs
  match cs with
  | c :: r => if isDigit c then .ok (r.dropWhile isDigit) else .error .malformed
  | [] => .error .malformed

/-- What is left behind a number nobody wants. Its size does not matter. -/
def skipNumber (cs : List Char) : Except Fault (List Char) :=
  let cs :=
    match cs with
    | '-' :: r => r
    | _ => cs
  match cs.takeWhile isDigit, cs.dropWhile isDigit with
  | [], _ => .error .malformed
  | '0' :: _ :: _, _ => .error .malformed
  | _, '.' :: r =>
    match r.takeWhile isDigit, r.dropWhile isDigit with
    | [], _ => .error .malformed
    | _, 'e' :: r => skipExponent r
    | _, 'E' :: r => skipExponent r
    | _, rest => .ok rest
  | _, 'e' :: r => skipExponent r
  | _, 'E' :: r => skipExponent r
  | _, rest => .ok rest

end Herald.Json
