import Herald.Text.Blank
import Herald.Text.Hexadecimal

/-!
# The signs of a pattern

A pattern is a regular expression over Unicode text, read without any tables of
character properties. So there are no classes by property, the letters, digits
and blanks of all scripts included, and letters cannot be compared without their
case. Both are there again for ASCII, where the pattern gives up Unicode; but a
pattern must match whole characters only, so what would match a byte beyond ASCII
is refused.

The brace that closes a list of fields also ends the pattern in it. So no sign
with a closing brace is ever complete, and an opening one has no meaning.
-/

namespace Herald.Console.Pattern

/-- How signs are read; it can change inside a pattern, up to the end of the group. -/
structure Scope where
  /-- Letters are compared without their case. -/
  foldCase : Bool := false
  /-- Signs stand for characters, and not for ASCII alone. -/
  unicode : Bool := true
  /-- Blanks and comments between signs mean nothing. -/
  spaced : Bool := false
deriving DecidableEq

namespace Scope

/-- What stands behind blanks and comments; a comment ends with its line. -/
def skipSpace (comment : Bool) : List Char → List Char
  | [] => []
  | c :: r =>
    if comment then skipSpace (c ≠ '\n') r
    else if Text.isBlank c then skipSpace false r
    else if c = '#' then skipSpace true r
    else c :: r

/-- What comes next, behind what means nothing. -/
def skip (s : Scope) (cs : List Char) : List Char := if s.spaced then skipSpace false cs else cs

/--
The sign that a hyphen is followed by. Of a comment only its mark is passed over,
and where nothing follows, it is the very next character.
-/
def peek? (s : Scope) (cs : List Char) : Option Char :=
  if s.spaced then
    match cs.dropWhile Text.isBlank with
    | '#' :: r => ((r.dropWhile Text.isBlank).head?).or cs.head?
    | r => r.head?.or cs.head?
  else cs.head?

/-- Whether a character stands for itself; `byte` where it was given as a byte. -/
def takesLiteral (s : Scope) (byte inSet : Bool) (c : Char) : Bool :=
  if s.unicode then !s.foldCase else !(byte || inSet) || c.toNat < 0x80

/-- Whether a shorthand can stand for digits, blanks or letters, or for all but them. -/
def takesShorthand (s : Scope) (negated : Bool) : Bool := !s.unicode && !negated

/-- Whether a class of ASCII characters can stand in a set. -/
def takesNamed (s : Scope) (negated : Bool) : Bool :=
  if s.unicode then !s.foldCase else !negated

/-- Whether a set can stand for what is not in it. -/
def takesSet (s : Scope) (negated : Bool) : Bool := s.unicode || !negated

end Scope

/-- A sign that a backslash begins, or a plain character. -/
inductive Sign where
  /-- A character; `byte` says whether it was given as a byte. -/
  | literal (c : Char) (byte : Bool)
  /-- Digits, blanks or letters, or all but them. -/
  | shorthand (negated : Bool)
  /-- The start or the end of the text. -/
  | textEnd
  /-- Where a word begins or ends, or where neither is the case. -/
  | wordEdge
deriving DecidableEq

/-- The value of a number of hexadecimal digits read after `value`. -/
def readDigits (s : Scope) : Nat → Nat → List Char → Option (Nat × List Char)
  | 0, value, cs => some (value, cs)
  | _ + 1, _, [] => none
  | n + 1, value, c :: r =>
    match Text.hexValue? c with
    | some d => readDigits s n (value * 16 + d) (s.skip r)
    | none => none

/-- A character by its code point in so many digits. -/
def readCode (s : Scope) (digits : Nat) (cs : List Char) : Option (Char × List Char) :=
  match readDigits s digits 0 (s.skip cs) with
  | some (n, r) => if n.isValidChar then some (Char.ofNat n, r) else none
  | none => none

/-- The controls that letters stand for. -/
def controlLetters : List (Char × Char) :=
  [('a', '\x07'), ('f', '\x0c'), ('t', '\t'), ('n', '\n'), ('r', '\r'), ('v', '\x0b')]

/-- The sign behind a backslash. -/
def readEscape (s : Scope) : List Char → Option (Sign × List Char)
  | [] => none
  | c :: r =>
    if c = 'x' then (readCode s 2 r).map fun (x, r) => (.literal x true, r)
    else if c = 'u' then (readCode s 4 r).map fun (x, r) => (.literal x false, r)
    else if c = 'U' then (readCode s 8 r).map fun (x, r) => (.literal x false, r)
    else if c = 'd' ∨ c = 's' ∨ c = 'w' then some (.shorthand false, r)
    else if c = 'D' ∨ c = 'S' ∨ c = 'W' then some (.shorthand true, r)
    else if c = 'A' ∨ c = 'z' then some (.textEnd, r)
    else if c = 'b' ∨ c = 'B' ∨ c = '<' ∨ c = '>' then some (.wordEdge, r)
    else
      match controlLetters.lookup c with
      | some x => some (.literal x false, r)
      | none => if c.toNat < 0x80 ∧ ¬ c.isAlphanum then some (.literal c false, r) else none

/-- The depth of what parts of these depths make up together: one part alone adds nothing. -/
def depthOf : List Nat → Nat
  | [] => 0
  | [d] => d
  | ds => ds.foldl max 0 + 1

end Herald.Console.Pattern
