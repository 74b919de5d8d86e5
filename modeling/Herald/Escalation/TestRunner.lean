import Herald.Path

/-!
# Recognising a test runner

Escalations are held back when the program runs as a test binary. Only the path
of the executable is looked at: it is a test binary when it lies in a directory
called `deps` and its name, less its extension, ends in a dash and sixteen
hexadecimal digits with something before the dash.
-/

namespace Herald

/-- The number of digits in the hash of a test binary. -/
def hashLength : Nat := 16

/-- An ASCII hexadecimal digit. -/
def isHexDigit (c : Char) : Bool :=
  ('0' ≤ c && c ≤ '9') || ('a' ≤ c && c ≤ 'f') || ('A' ≤ c && c ≤ 'F')

/-- A name, a dash and a hash. -/
def isHashedName (stem : List Char) : Bool :=
  match Text.splitLast? '-' stem with
  | some (name, hash) => !name.isEmpty && hash.length == hashLength && hash.all isHexDigit
  | none => false

/-- Whether a path is that of a test binary. -/
def isTestBinary (path : String) : Bool :=
  Path.parentName? path.toList == some "deps".toList
    && (match Path.stem? path.toList with
        | some stem => isHashedName stem
        | none => false)

/-- Whether the command line is that of a test binary; only its first word counts. -/
def isTestRunner (arguments : List String) : Bool :=
  match arguments with
  | [] => false
  | program :: _ => isTestBinary program

/-- Whether escalations are held back. -/
inductive TestMode where
  /-- As the command line says. It is assumed to be valid Unicode; reading any other breaks down. -/
  | detect (arguments : List String)
  | forced (active : Bool)
deriving DecidableEq

/-- Whether escalations are held back now. -/
def TestMode.isActive : TestMode → Bool
  | .detect arguments => isTestRunner arguments
  | .forced active => active

end Herald
