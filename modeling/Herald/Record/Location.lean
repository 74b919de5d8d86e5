/-!
# Caller locations

A file, a line and a function, with the stack as text when it was asked for.
Where nothing is known the location is the sentinel: two bracketed texts and
line zero. A location counts as unknown by its file and line alone.
-/

namespace Herald

/-- Where a logging call came from. -/
structure Location where
  file : String
  line : UInt32
  function : String
  stack : Option String := none
deriving DecidableEq

namespace Location

/-- What stands for a file that is not known. -/
def unknownFile : String := "(unknown file)"

/-- What stands for a function that is not known. -/
def unknownFunction : String := "(unknown function)"

/-- The sentinel. -/
def unknown : Location := ⟨unknownFile, 0, unknownFunction, none⟩

/-- Whether file and line are those of the sentinel. -/
def isUnknown (l : Location) : Bool := l.file = unknownFile ∧ l.line = 0

/-- A place in the source, where the function is not known. -/
def ofSite (file : String) (line : UInt32) : Location := ⟨file, line, unknownFunction, none⟩

/-- The location in one line. -/
def display (l : Location) : String := s!"{l.file}:{l.line} in {l.function}"

end Location

end Herald
