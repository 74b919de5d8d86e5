import Herald.Console.Pattern.Sign

/-!
# Sets of characters in a pattern

Between square brackets stand characters, ranges, shorthands, classes of ASCII
characters by name, and further sets; operators of two signs each make the
intersection or a difference of what stands on their left and on their right,
where nothing is fine as well. A bracket or hyphens right at the start stand for
themselves.

`readSet` finds the end of a set and how deep it is nested, or that there is no
such set.
-/

namespace Herald.Console.Pattern

/-- A set that is not closed yet. -/
structure OpenSet where
  negated : Bool
  /-- The depths of what stands in it since the last operator, the last first. -/
  items : List Nat := []
  /-- The depth of what stands before the last operator. -/
  before : Option Nat := none

namespace OpenSet

/-- One more thing in the set. -/
def add (o : OpenSet) (depth : Nat) : OpenSet := { o with items := depth :: o.items }

/-- The depth of all that stands in the set. -/
def depth (o : OpenSet) : Nat :=
  match o.before with
  | none => depthOf o.items
  | some d => depthOf [depthOf o.items, d]

/-- An operator: what stood in the set is on its left. -/
def operate (o : OpenSet) : OpenSet := { o with items := [], before := some o.depth }

end OpenSet

/-- The names of the classes of ASCII characters. -/
def classNames : List String :=
  ["alnum", "alpha", "ascii", "blank", "cntrl", "digit", "graph", "lower", "print", "punct",
   "space", "upper", "word", "xdigit"]

/-- A class by its name, behind its opening bracket: whether it is negated. -/
def readNamed? : List Char → Option (Bool × List Char)
  | ':' :: r =>
    let (negated, r) := match r with
      | '^' :: r => (true, r)
      | r => (false, r)
    match r.dropWhile (· ≠ ':') with
    | ':' :: ']' :: rest =>
      if classNames.contains (String.ofList (r.takeWhile (· ≠ ':'))) then some (negated, rest)
      else none
    | _ => none
  | _ => none

/-- The hyphens at the start of a set, which stand for themselves. -/
def readHyphens (s : Scope) : Nat → OpenSet → List Char → OpenSet × List Char
  | fuel + 1, o, '-' :: r => readHyphens s fuel (o.add 0) (s.skip r)
  | _, o, cs => (o, cs)

/-- The start of a set, behind its opening bracket. -/
def openSet (s : Scope) (cs : List Char) : Option (OpenSet × List Char) :=
  let (negated, cs) := match s.skip cs with
    | '^' :: r => (true, s.skip r)
    | r => (false, r)
  let (o, cs) := readHyphens s cs.length { negated } cs
  let (o, cs) := match o.items, cs with
    | [], ']' :: r => (o.add 0, s.skip r)
    | _, _ => (o, cs)
  if o.items.isEmpty || s.takesLiteral false true '-' then some (o, cs) else none

/-- A single sign in a set. -/
def readSign (s : Scope) : List Char → Option (Sign × List Char)
  | [] => none
  | '\\' :: r => readEscape s r
  | c :: r => some (.literal c false, r)

/-- Whether a sign can stand in a set on its own. -/
def takesInSet (s : Scope) : Sign → Bool
  | .literal c byte => s.takesLiteral byte true c
  | .shorthand negated => s.takesShorthand negated
  | .textEnd | .wordEdge => false

/-- What follows the first sign of a range, behind the hyphen. -/
def readRangeEnd (s : Scope) (first : Sign) (cs : List Char) : Option (List Char) :=
  match first, readSign s (s.skip cs) with
  | .literal low _, some (.literal high byte, r) =>
    if low ≤ high ∧ takesInSet s first ∧ s.takesLiteral byte true high then some r else none
  | _, _ => none

/-- A sign or a range of signs in a set. -/
def readRange (s : Scope) (cs : List Char) : Option (List Char) :=
  match readSign s cs with
  | none => none
  | some (first, r) =>
    let alone (r : List Char) : Option (List Char) := if takesInSet s first then some r else none
    match s.skip r with
    | '-' :: after =>
      if s.peek? after = some ']' ∨ s.peek? after = some '-' then alone ('-' :: after)
      else readRangeEnd s first after
    | r => alone r

/-- What follows the start of a set, inside the sets around it. -/
def readSetRest (s : Scope) : Nat → OpenSet → List OpenSet → List Char →
    Option (Nat × List Char)
  | 0, _, _, _ => none
  | fuel + 1, o, outer, cs =>
    match s.skip cs with
    | [] => none
    | '[' :: r =>
      match readNamed? r with
      | some (negated, r) =>
        if s.takesNamed negated then readSetRest s fuel (o.add 0) outer r else none
      | none =>
        match openSet s r with
        | some (inner, r) => readSetRest s fuel inner (o :: outer) r
        | none => none
    | ']' :: r =>
      if s.takesSet o.negated then
        match outer with
        | [] => some (o.depth + 1, r)
        | around :: outer => readSetRest s fuel (around.add (o.depth + 1)) outer r
      else none
    | '&' :: '&' :: r | '-' :: '-' :: r | '~' :: '~' :: r =>
      readSetRest s fuel o.operate outer r
    | cs =>
      match readRange s cs with
      | some r => readSetRest s fuel (o.add 0) outer r
      | none => none

/-- A set behind its opening bracket: its depth, and what follows it. -/
def readSet (s : Scope) (cs : List Char) : Option (Nat × List Char) :=
  match openSet s cs with
  | some (o, r) => readSetRest s (cs.length + 1) o [] r
  | none => none

end Herald.Console.Pattern
