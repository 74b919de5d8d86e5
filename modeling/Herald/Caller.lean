import Herald.Path
import Herald.Record.Location

/-!
# Who called

A walk up the stack, innermost symbol first, for the first symbol outside the
logging core. Symbols met before the core is entered are the walker's own. A
symbol with a file is in the core when the file ends in one of the skipped
sources, component by component; a symbol without a file is in the core when its
function lies in one of the skipped modules. A symbol with neither is never
reported and never in the core.

With the stack wanted, it is rendered from the outermost symbol in to the caller.
-/

namespace Herald

/-- One symbol of a stack frame. -/
structure Symbol where
  file : Option String
  line : UInt32 := 0
  function : Option String
deriving DecidableEq

/-- What counts as the logging core. -/
structure Core where
  sources : List String
  modules : List String
deriving DecidableEq

namespace Core

/-- The logging library itself. -/
def library : Core where
  sources :=
    ["tidings-core/src/caller.rs", "tidings-core/src/logger.rs", "tidings-core/src/escalation.rs"]
  modules := ["tidings_core::caller", "tidings_core::logger", "tidings_core::escalation"]

/-- A further source that counts as core. -/
def skipSource (c : Core) (path : String) : Core := { c with sources := c.sources ++ [path] }

/-- A further module that counts as core. -/
def skipModule (c : Core) (module : String) : Core :=
  { c with modules := c.modules ++ [module] }

end Core

namespace Symbol

/-- Whether a function lies in a module: its name, less leading `<`, extends the module's by `::`. -/
def inModule (function module : String) : Bool :=
  (module.toList ++ [':', ':']).isPrefixOf (function.toList.dropWhile (· = '<'))

/-- Whether the symbol belongs to the core. -/
def isCore (core : Core) (s : Symbol) : Bool :=
  match s.file, s.function with
  | some file, _ => core.sources.any fun source => Path.endsWith file source
  | none, some function => core.modules.any fun module => inModule function module
  | none, none => false

/-- Whether anything is known about the symbol. -/
def isNamed (s : Symbol) : Bool := s.file.isSome || s.function.isSome

/-- The symbol as a location, with the sentinels for what is not known. -/
def location (s : Symbol) : Location where
  file := s.file.getD Location.unknownFile
  line := s.line
  function := s.function.getD Location.unknownFunction

end Symbol

namespace Caller

/--
The symbols from the caller outwards. `entered` says whether a core symbol has
been met already.
-/
def outward? (core : Core) (entered : Bool) : List Symbol → Option (List Symbol)
  | [] => none
  | s :: rest =>
    if s.isCore core then outward? core true rest
    else if entered && s.isNamed then some (s :: rest)
    else outward? core entered rest

/-- One entry of a rendered stack. -/
def renderEntry (s : Symbol) : String :=
  let l := s.location
  s!"\n  {l.function}\n    at {l.file}:{l.line}"

/-- The stack as text: a header, then the symbols from the outermost inwards. -/
def renderStack (symbols : List Symbol) : String :=
  "Stack (most recent call last):" ++ String.join (symbols.reverse.map renderEntry)

/-- The location of the caller, or the sentinel when there is none. -/
def resolve (core : Core) (capture : Bool) (stack : List Symbol) : Location :=
  match outward? core false stack with
  | some (s :: rest) =>
    { s.location with stack := if capture then some (renderStack (s :: rest)) else none }
  | _ => Location.unknown

end Caller

/-- A way to find out who called. -/
inductive Locator where
  /-- Always the same location. -/
  | fixed (location : Location)
  /-- A walk up the stack, past this core. -/
  | walk (core : Core)
deriving DecidableEq

/--
Where the call came from, given the stack as a walk finds it. A fixed location
asked for a stack makes one up of its own line, unless it carries one.
-/
def Locator.locate (capture : Bool) (stack : List Symbol) : Locator → Location
  | .fixed l =>
    match capture, l.stack with
    | true, none =>
      { l with stack := some s!"Stack (most recent call last):\n  {l.display}" }
    | _, _ => l
  | .walk core => Caller.resolve core capture stack

end Herald
