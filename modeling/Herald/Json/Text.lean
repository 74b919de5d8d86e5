import Herald.Json.Basic
import Herald.Text.Hexadecimal

/-!
# JSON strings

`quote` escapes a quotation mark, a backslash and the control characters and
leaves everything else as it is. `readText` reads what follows an opening
quotation mark; it takes every escape of the standard, joins surrogate pairs and
refuses lone surrogates and raw control characters. `skipText` passes over a
string whose value nobody wants, and so does not look at surrogates.
-/

namespace Herald.Json

/-! ## Writing -/

/-- One character as it stands in a string. -/
def escapeChar (c : Char) : List Char :=
  if c = '"' then ['\\', '"']
  else if c = '\\' then ['\\', '\\']
  else if c = '\x08' then ['\\', 'b']
  else if c = '\t' then ['\\', 't']
  else if c = '\n' then ['\\', 'n']
  else if c = '\x0c' then ['\\', 'f']
  else if c = '\r' then ['\\', 'r']
  else if c.toNat < 32 then
    ['\\', 'u', '0', '0', Text.hexDigit (c.toNat / 16), Text.hexDigit (c.toNat % 16)]
  else [c]

/-- The characters of a string between its quotation marks. -/
def escape (cs : List Char) : List Char := cs.flatMap escapeChar

/-- A text as a JSON string. -/
def quote (s : String) : List Char := '"' :: (escape s.toList ++ ['"'])

/-! ## Reading -/

/-- The value of four hexadecimal digits. -/
def hexQuad? (a b c d : Char) : Option Nat :=
  match Text.hexValue? a, Text.hexValue? b, Text.hexValue? c, Text.hexValue? d with
  | some a, some b, some c, some d => some (((a * 16 + b) * 16 + c) * 16 + d)
  | _, _, _, _ => none

/-- What a text of too few characters for four digits is: cut off, or not digits at all. -/
def quadFault (cs : List Char) : Fault :=
  if cs.foldr (fun c n => c.utf8Size + n) 0 < 4 then .truncated else .malformed

/-- The characters that stand behind a backslash for themselves or for a control character. -/
def simpleEscape? (c : Char) : Option Char :=
  if c = '"' ∨ c = '\\' ∨ c = '/' then some c
  else if c = 'b' then some '\x08'
  else if c = 'f' then some '\x0c'
  else if c = 'n' then some '\n'
  else if c = 'r' then some '\r'
  else if c = 't' then some '\t'
  else none

/-- Whether a code unit is the first of a pair. -/
def isHighSurrogate (n : Nat) : Bool := 0xD800 ≤ n && n ≤ 0xDBFF

/-- Whether a code unit is the second of a pair. -/
def isLowSurrogate (n : Nat) : Bool := 0xDC00 ≤ n && n ≤ 0xDFFF

/-- The character that two surrogates stand for. -/
def joinSurrogates (high low : Nat) : Char :=
  Char.ofNat (0x10000 + (high - 0xD800) * 0x400 + (low - 0xDC00))

/-- What is wrong when a high surrogate is not followed by a second escape. -/
def pairFault : List Char → Fault
  | [] => .truncated
  | ['\\'] => .truncated
  | '\\' :: 'u' :: r => quadFault r
  | _ => .malformed

/-- The contents of a string, from behind its opening quotation mark. -/
def readText : Reader (List Char)
  | [] => .error .truncated
  | '"' :: r => .ok ([], r)
  | '\\' :: 'u' :: a :: b :: c :: d :: r =>
    match hexQuad? a b c d with
    | none => .error .malformed
    | some n =>
      if isLowSurrogate n then .error .malformed
      else if isHighSurrogate n then
        match r with
        | '\\' :: 'u' :: e :: f :: g :: h :: r' =>
          match hexQuad? e f g h with
          | none => .error .malformed
          | some low =>
            if isLowSurrogate low then (readText r').map (joinSurrogates n low :: ·)
            else .error .malformed
        | r => .error (pairFault r)
      else (readText r).map (Char.ofNat n :: ·)
  | '\\' :: 'u' :: r => .error (quadFault r)
  | '\\' :: e :: r =>
    match simpleEscape? e with
    | some c => (readText r).map (c :: ·)
    | none => .error .malformed
  | ['\\'] => .error .truncated
  | c :: r => if c.toNat < 32 then .error .malformed else (readText r).map (c :: ·)

/-- The text after a string whose contents nobody wants. -/
def skipText : List Char → Except Fault (List Char)
  | [] => .error .truncated
  | '"' :: r => .ok r
  | '\\' :: 'u' :: a :: b :: c :: d :: r =>
    match hexQuad? a b c d with
    | none => .error .malformed
    | some _ => skipText r
  | '\\' :: 'u' :: r => .error (quadFault r)
  | '\\' :: e :: r =>
    match simpleEscape? e with
    | some _ => skipText r
    | none => .error .malformed
  | ['\\'] => .error .truncated
  | c :: r => if c.toNat < 32 then .error .malformed else skipText r

end Herald.Json
