import Herald.Level.Basic
import Herald.SortedTable
import Herald.Text.Blank

/-!
# Level registries

A registry pairs names with ranks, each name with one rank and each rank with
one name. Names are compared after trimming and in ASCII capitals, and that is
the form in which they are kept. Registering a pair again changes nothing; a
name at a second rank, or a rank under a second name, is refused.

There is a table for either side. `byName?` asks the one, `nameOf?` the other.
-/

namespace Herald

/-- Why a level was refused or not found. -/
inductive LevelError where
  /-- The name has a rank already, and it is another one. -/
  | conflictingRank (name : String) (existing requested : UInt32)
  /-- The rank has a name already, and it is another one. -/
  | rankTaken (rank : UInt32) (existing requested : String)
  /-- Nothing is left of the name after trimming. -/
  | emptyName
  /-- Neither a rank nor a registered name. -/
  | unknown (text : String)
  /-- The registry of the process is fixed and lacks this level. -/
  | alreadyInitialized (level : String)
deriving DecidableEq

/-- The sentence shown for the error. -/
def LevelError.message : LevelError → String
  | .conflictingRank name existing requested =>
    s!"level {name} is registered with rank {existing}, refusing rank {requested}"
  | .rankTaken rank existing requested =>
    s!"rank {rank} already belongs to level {existing}, refusing name {requested}"
  | .emptyName => "level name must not be empty"
  | .unknown text => s!"unknown level name '{text}'"
  | .alreadyInitialized level =>
    s!"level registry already initialized; {level} cannot be added afterwards"

/-- The form in which level names are compared and kept. -/
def normalizeName (name : String) : String := Text.upperAscii (Text.trim name)

/-- Two tables, one to be asked with a rank and one to be asked with a name. -/
structure Registry where
  ranks : SortedTable Level String
  names : SortedTable String Level
deriving DecidableEq

namespace Registry

/-- No levels at all. -/
def empty : Registry := ⟨.empty, .empty⟩

/-- The rank under which a name is registered. -/
def byName? (r : Registry) (name : String) : Option Level := r.names.get? (normalizeName name)

/-- The name registered at a rank. -/
def nameOf? (r : Registry) (l : Level) : Option String := r.ranks.get? l

/-- Whether the name is registered at this rank. -/
def contains (r : Registry) (name : String) (rank : UInt32) : Bool :=
  r.byName? name = some ⟨rank⟩

/-- One more pair, which goes into the table of ranks first and then into that of names. -/
def withPair (r : Registry) (key : String) (level : Level) : Registry :=
  let ranked := { r with ranks := r.ranks.insert level key }
  { ranked with names := ranked.names.insert key level }

/-- Registers `name` at `rank`, or gives the reason why not. -/
def register (r : Registry) (name : String) (rank : UInt32) :
    Except LevelError Level × Registry :=
  let key := normalizeName name
  let level : Level := ⟨rank⟩
  if key = "" then (.error .emptyName, r)
  else
    match r.names.get? key with
    | some existing =>
      if existing = level then (.ok level, r)
      else (.error (.conflictingRank key existing.rank rank), r)
    | none =>
      match r.ranks.get? level with
      | some existing => (.error (.rankTaken rank existing key), r)
      | none => (.ok level, r.withPair key level)

/-- All pairs registered in order; the first refusal ends it. -/
def registerAll (r : Registry) : List (String × UInt32) → Except LevelError Registry
  | [] => .ok r
  | (name, rank) :: rest =>
    match r.register name rank with
    | (.ok _, r') => registerAll r' rest
    | (.error e, _) => .error e

/-- The built-in levels. -/
def defaults : Registry where
  ranks :=
    ⟨[(Level.notset, "NOTSET"), (Level.debug, "DEBUG"), (Level.info, "INFO"),
      (Level.notify, "NOTIFY"), (Level.network, "NETWORK"), (Level.warning, "WARNING"),
      (Level.error, "ERROR"), (Level.critical, "CRITICAL")], by decide⟩
  names :=
    ⟨[("CRITICAL", Level.critical), ("DEBUG", Level.debug), ("ERROR", Level.error),
      ("INFO", Level.info), ("NETWORK", Level.network), ("NOTIFY", Level.notify),
      ("NOTSET", Level.notset), ("WARNING", Level.warning)], by decide +kernel⟩

/-- The built-in levels are what registering them one after another gives. -/
theorem registerAll_builtin :
    empty.registerAll (Level.builtin.map fun b => (b.1, b.2.rank)) = .ok defaults := rfl

/-- All pairs, in ascending rank. -/
def levels (r : Registry) : List (Level × String) := r.ranks.bindings

/-- How many names there are. -/
def size (r : Registry) : Nat := r.names.size

end Registry

/-- The registered name of a level, or its rank spelled out. -/
def Level.name (r : Registry) (l : Level) : String := (r.nameOf? l).getD l.plainName

end Herald
