import Herald.Level.Registry

/-!
# The registry of the process

A process has at most one registry. It is installed once, by whoever comes
first: an initialisation that asks for extra levels, a plain one, or the first
use of a level name, which installs the built-in levels. After that it never
changes, and asking for extra levels succeeds only if they are all there.
-/

namespace Herald

/-- What a process has installed. -/
structure ProcessLevels where
  installed : Option Registry := none
deriving DecidableEq

/-- The first of the wanted levels that the registry lacks. -/
def Registry.missing? (r : Registry) (extra : List (String × UInt32)) : Option (String × UInt32) :=
  extra.find? fun e => !r.contains e.1 e.2

/-- The registry itself if it has all the wanted levels, else the first that is missing. -/
def Registry.require (r : Registry) (extra : List (String × UInt32)) : Except LevelError Registry :=
  match r.missing? extra with
  | none => .ok r
  | some (name, rank) => .error (.alreadyInitialized s!"{name}={rank}")

namespace ProcessLevels

/-- The registry in force, installing the built-in one if there is none yet. -/
def install (p : ProcessLevels) : Registry × ProcessLevels :=
  match p.installed with
  | some r => (r, p)
  | none => (Registry.defaults, ⟨some Registry.defaults⟩)

/--
Installs the built-in levels and `extra`, or checks that what is installed has
them. A refusal leaves the process as it was.
-/
def installWith (p : ProcessLevels) (extra : List (String × UInt32)) :
    Except LevelError Registry × ProcessLevels :=
  match p.installed with
  | some r => (r.require extra, p)
  | none =>
    match Registry.defaults.registerAll extra with
    | .ok r => (r.require extra, ⟨some r⟩)
    | .error e => (.error e, p)

end ProcessLevels

end Herald
