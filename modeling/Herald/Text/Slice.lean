import Herald.Text.Quoted

/-!
# Slices by position

Positions in a text count the bytes of its UTF-8 form. A slice from one position
to another is whole characters only where neither position lies inside a
character; otherwise the slice tears one apart, and there is none.
-/

namespace Herald.Text

/-- The number of bytes that characters take. -/
def byteLength (cs : List Char) : Nat := cs.foldr (fun c n => c.utf8Size + n) 0

/-- The end of a slice at which a character is torn. -/
inductive Edge where
  | start
  | stop
deriving DecidableEq

/-- A character that a slice tears apart. -/
structure Tear where
  edge : Edge
  /-- Where the slice was to be cut. -/
  position : Nat
  torn : Char
  /-- Where the character begins. -/
  first : Nat
deriving DecidableEq

/-- The sentence shown for a tear. -/
def Tear.message (t : Tear) : String :=
  let edge := match t.edge with
    | .start => "start"
    | .stop => "end"
  s!"{edge} byte index {t.position} is not a char boundary; it is inside {quotedChar t.torn} "
    ++ s!"(bytes {t.first}..{t.first + t.torn.utf8Size} of string)"

/-- The character that a position lies inside of, and where it begins, in a text from `origin` on. -/
def inside? (position : Nat) (origin : Nat) : List Char → Option (Char × Nat)
  | [] => none
  | c :: r =>
    if position ≤ origin then none
    else if position < origin + c.utf8Size then some (c, origin)
    else inside? position (origin + c.utf8Size) r

/-- The characters in the first `n` bytes. -/
def takeBytes (n : Nat) : List Char → List Char
  | [] => []
  | c :: r => if n < c.utf8Size then [] else c :: takeBytes (n - c.utf8Size) r

/-- The characters behind the first `n` bytes. -/
def dropBytes (n : Nat) : List Char → List Char
  | [] => []
  | c :: r => if n < c.utf8Size then c :: r else dropBytes (n - c.utf8Size) r

/-- What stands behind a position. -/
def sliceFrom (start : Nat) (cs : List Char) : Except Tear (List Char) :=
  match inside? start 0 cs with
  | some (c, first) => .error ⟨.start, start, c, first⟩
  | none => .ok (dropBytes start cs)

/-- What stands between two positions. -/
def slice (start stop : Nat) (cs : List Char) : Except Tear (List Char) :=
  match sliceFrom start cs with
  | .error t => .error t
  | .ok rest =>
    match inside? stop 0 cs with
    | some (c, first) => .error ⟨.stop, stop, c, first⟩
    | none => .ok (takeBytes (stop - start) rest)

end Herald.Text
