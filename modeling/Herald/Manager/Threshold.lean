import Herald.Manager.Basic

/-!
# Thresholds

A logger's own threshold decides if it has one. Otherwise the name is walked up
at its dots: the nearest name for which a threshold is set decides, starting
with the logger's own name; and if there is none, the level of the root. A
threshold of `notset` for a subtree counts as none.
-/

namespace Herald

/-- The parts of a name that end just before one of its dots, longest first. -/
def dotPrefixes : List Char → List (List Char)
  | [] => []
  | c :: r =>
    let longer := (dotPrefixes r).map (c :: ·)
    if c = '.' then longer ++ [[]] else longer

/-- A name and its ancestors, nearest first. -/
def lineage (name : String) : List String := name :: (dotPrefixes name.toList).map String.ofList

namespace Manager

/-- The threshold set for exactly this name, unless it is `notset`. -/
def subtreeLevel? (m : Manager) (name : String) : Option Level :=
  (Table.get? m.subtrees name).filter fun l => l ≠ Level.notset

/-- The threshold of the nearest ancestor that has one, else that of the root. -/
def inheritedLevel (m : Manager) (key : String) : Level :=
  ((lineage key).findSome? m.subtreeLevel?).getD m.rootLevel

/-- The threshold in force for a logger. -/
def effectiveLevel (m : Manager) (key : String) : Level :=
  let lg := m.logger key
  if lg.level = Level.notset then m.inheritedLevel lg.name else lg.level

theorem effectiveLevel_eq (m : Manager) (key : String) :
    m.effectiveLevel key
      = if (m.logger key).level = Level.notset then m.inheritedLevel key
        else (m.logger key).level := by
  simp only [effectiveLevel, name_logger]

/-- Whether a logger lets a level through. -/
def isEnabledFor (m : Manager) (key : String) (l : Level) : Bool := m.effectiveLevel key ≤ l

/-- Sets a threshold for a name and all names below it. The name is taken as it is. -/
def setLevel (m : Manager) (name : String) (l : Level) : Manager :=
  { m with subtrees := Table.set m.subtrees name l }

/-- Takes back the threshold of a name. -/
def clearLevel (m : Manager) (name : String) : Manager :=
  { m with subtrees := Table.erase m.subtrees name }

/-- Sets the level of the root. -/
def setRootLevel (m : Manager) (l : Level) : Manager := { m with rootLevel := l }

/-- Sets a logger's own threshold. -/
def setLoggerLevel (m : Manager) (key : String) (l : Level) : Manager :=
  m.updateLogger key fun lg => { lg with level := l }

end Manager

end Herald
