/-!
# Reading JSON

A reader takes the text that is left and gives a value with the text after it.
It goes from left to right and stops at the first problem, of which there are
three kinds: the text is not JSON, it ends too early, or it is JSON of a shape
that the value does not have.
-/

namespace Herald.Json

/-- What is wrong with a text. -/
inductive Fault where
  /-- Not JSON. -/
  | malformed
  /-- The text ends too early. -/
  | truncated
  /-- JSON, but not of the wanted shape. -/
  | mismatch
deriving DecidableEq

/-- The usual name for the kind of fault. -/
def Fault.category : Fault → String
  | .malformed => "syntax"
  | .truncated => "eof"
  | .mismatch => "data"

/-- The outcome of a reader: a value and the text after it. -/
abbrev Parsed (α : Type) := Except Fault (α × List Char)

/-- A reader of values. -/
abbrev Reader (α : Type) := List Char → Parsed α

/-- The characters that may stand between tokens. -/
def isSpace (c : Char) : Bool := c = ' ' ∨ c = '\n' ∨ c = '\t' ∨ c = '\r'

/-- What follows the spaces in front. -/
def skipSpace (cs : List Char) : List Char := cs.dropWhile isSpace

/-- Reads the rest of a fixed word. -/
def readWord : List Char → List Char → Except Fault (List Char)
  | [], cs => .ok cs
  | _ :: _, [] => .error .truncated
  | w :: ws, c :: cs => if w = c then readWord ws cs else .error .malformed

/-- Applies a function to the value read. -/
def Parsed.map {α β : Type} (f : α → β) : Parsed α → Parsed β
  | .ok (a, rest) => .ok (f a, rest)
  | .error e => .error e

/-- Reads on with what follows the value read. -/
def Parsed.andThen {α β : Type} (p : Parsed α) (k : α → Reader β) : Parsed β :=
  match p with
  | .ok (a, rest) => k a rest
  | .error e => .error e

/-- Reads one value that has to fill the whole text, up to spaces. -/
def readAll {α : Type} (read : Reader α) (text : String) : Except Fault α :=
  match read (skipSpace text.toList) with
  | .error e => .error e
  | .ok (a, rest) => if skipSpace rest = [] then .ok a else .error .malformed

/-- How deep arrays and objects may be nested, plus one. -/
def nestingLimit : Nat := 128

end Herald.Json
