import Herald.Console.Pattern.Set
import Herald.Text.Alphanumeric

/-!
# Patterns

Which texts are patterns for the values of fields, and what is wrong with the
others. Parts stand one after another; a part may be repeated, a bar divides
alternatives, and round brackets make groups, which may have names and may change
how signs are read.

`fault?` reads a pattern from left to right, with the open groups on a stack. It
keeps of a part only how deep it is nested, for there is a limit to that. A
pattern that asks for the edges of words in Unicode is well-formed and still of no
use, since finding them takes more than a finite automaton.
-/

namespace Herald.Console

/-- Why a text is no pattern. -/
inductive PatternFault where
  /-- It is not well-formed, or asks for character properties. -/
  | unreadable
  /-- It asks for the edges of words in Unicode. -/
  | wordEdge
deriving DecidableEq

/-- The sentence shown for the fault. -/
def PatternFault.message : PatternFault → String
  | .unreadable => "error building NFA"
  | .wordEdge =>
    "unsupported regex feature for DFAs: cannot build DFAs for regexes with Unicode word "
      ++ "boundaries; switch to ASCII word boundaries, or heuristically enable Unicode word "
      ++ "boundaries or use a different regex engine"

namespace Pattern

/-- How deep a pattern may be nested. -/
def depthLimit : Nat := 250

/-- Something in a row of parts. -/
inductive Item where
  /-- A change in how signs are read, which cannot be repeated. -/
  | change
  | part (depth : Nat)

/-- The depth of an item. -/
def Item.depth : Item → Nat
  | .change => 0
  | .part d => d

/-- A row of parts, the last first, with the alternatives before it. -/
structure Row where
  items : List Item := []
  /-- The depths of the alternatives that are complete. -/
  alternatives : List Nat := []

namespace Row

/-- One more item. -/
def add (r : Row) (i : Item) : Row := { r with items := i :: r.items }

/-- The row ends and an alternative begins. -/
def divide (r : Row) : Row :=
  { items := [], alternatives := depthOf (r.items.map Item.depth) :: r.alternatives }

/-- The depth of the alternatives together. -/
def depth (r : Row) : Nat := depthOf r.divide.alternatives

/-- The last item is repeated, if it can be. -/
def repeatLast? (r : Row) : Option Row :=
  match r.items with
  | .part d :: items => some { r with items := .part (d + 1) :: items }
  | _ => none

end Row

/-- A group that is not closed yet: how signs were read before it, and what stands before it. -/
structure Group where
  scope : Scope
  before : Row

/-- What has been read of a pattern. -/
structure Progress where
  scope : Scope := {}
  row : Row := {}
  /-- The open groups, the innermost first. -/
  groups : List Group := []
  /-- The names that groups have. -/
  names : List String := []
  /-- Whether it asks for the edges of words in Unicode. -/
  wordEdge : Bool := false

namespace Progress

/-- One more part. -/
def add (p : Progress) (depth : Nat) : Progress := { p with row := p.row.add (.part depth) }

/-- A group begins. -/
def openGroup (p : Progress) (scope : Scope) : Progress :=
  { p with scope, row := {}, groups := ⟨p.scope, p.row⟩ :: p.groups }

/-- The innermost group ends. -/
def closeGroup? (p : Progress) : Option Progress :=
  match p.groups with
  | [] => none
  | g :: groups =>
    some { p with scope := g.scope, row := g.before.add (.part (p.row.depth + 1)), groups }

/-- A sign that is a part. -/
def addSign? (p : Progress) : Sign → Option Progress
  | .literal c byte => if p.scope.takesLiteral byte false c then some (p.add 0) else none
  | .shorthand negated => if p.scope.takesShorthand negated then some (p.add 0) else none
  | .textEnd => some (p.add 0)
  | .wordEdge => some { p.add 0 with wordEdge := p.wordEdge || p.scope.unicode }

end Progress

/-- The letters that change how signs are read or matched. -/
def flagLetters : List Char := ['i', 'm', 's', 'U', 'u', 'R', 'x']

/-- Letters that were given, and whether they switch on. -/
abbrev Flags := List (Char × Bool)

/-- The letters up to a colon or a bracket; `off` behind a hyphen, `bare` right behind it. -/
def readFlags (flags : Flags) (off bare : Bool) : List Char → Option (Flags × Char × List Char)
  | [] => none
  | c :: r =>
    if c = ':' ∨ c = ')' then if bare then none else some (flags, c, r)
    else if c = '-' then if off then none else readFlags flags true true r
    else if flagLetters.contains c ∧ (flags.lookup c).isNone then
      readFlags ((c, !off) :: flags) off false r
    else none

/-- How signs are read under flags. -/
def Scope.change (s : Scope) (flags : Flags) : Scope where
  foldCase := (flags.lookup 'i').getD s.foldCase
  unicode := (flags.lookup 'u').getD s.unicode
  spaced := (flags.lookup 'x').getD s.spaced

/-- Whether a text can be the name of a group. -/
def isGroupName : List Char → Bool
  | [] => false
  | c :: r =>
    (c = '_' || Text.isAlphabetic c)
      && r.all fun x => ['_', '.', '[', ']'].contains x || Text.isAlphanumeric x

/-- A group with a name, which no other group has. -/
def readNamedGroup (p : Progress) (cs : List Char) : Option (Progress × List Char) :=
  let name := cs.takeWhile (· ≠ '>')
  match cs.dropWhile (· ≠ '>') with
  | _ :: r =>
    if isGroupName name ∧ ¬ p.names.contains (String.ofList name) then
      some ({ p with names := String.ofList name :: p.names }.openGroup p.scope, r)
    else none
  | [] => none

/-- What follows an opening round bracket. -/
def readGroup (p : Progress) (cs : List Char) : Option (Progress × List Char) :=
  match p.scope.skip cs with
  | '?' :: 'P' :: '<' :: r | '?' :: '<' :: r => readNamedGroup p r
  | '?' :: r =>
    match readFlags [] false false r with
    | none => none
    | some (flags, stop, r) =>
      let scope := p.scope.change flags
      if stop = ':' then some (p.openGroup scope, r)
      else if flags.isEmpty then none
      else some ({ p with scope, row := p.row.add .change }, r)
  | r => some (p.openGroup p.scope, r)

/-- The next sign of a pattern. -/
def step (p : Progress) : List Char → Option (Progress × List Char)
  | [] => none
  | '(' :: r => readGroup p r
  | ')' :: r => p.closeGroup?.map (·, r)
  | '|' :: r => some ({ p with row := p.row.divide }, r)
  | '[' :: r => (readSet p.scope r).map fun (depth, r) => (p.add depth, r)
  | '\\' :: r => (readEscape p.scope r).bind fun (sign, r) => (p.addSign? sign).map (·, r)
  | '\x7b' :: _ => none
  | '.' :: r => if p.scope.unicode then some (p.add 0, r) else none
  | c :: r =>
    if c = '^' ∨ c = '$' then some (p.add 0, r)
    else if c = '*' ∨ c = '+' ∨ c = '?' then
      p.row.repeatLast?.map fun row => ({ p with row }, if r.head? = some '?' then r.tail else r)
    else (p.addSign? (.literal c false)).map (·, r)

/-- The whole pattern; each sign takes at least one character. -/
def readFrom : Nat → Progress → List Char → Option Progress
  | 0, _, _ => none
  | fuel + 1, p, cs =>
    match p.scope.skip cs with
    | [] => if p.groups.isEmpty && p.row.depth ≤ depthLimit then some p else none
    | cs =>
      match step p cs with
      | some (p, r) => readFrom fuel p r
      | none => none

/-- What is wrong with a pattern, if anything is. -/
def fault? (pattern : String) : Option PatternFault :=
  let cs := pattern.toList
  match readFrom (cs.length + 1) {} cs with
  | none => some .unreadable
  | some p => if p.wordEdge then some .wordEdge else none

end Pattern

end Herald.Console
