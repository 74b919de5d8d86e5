/-!
# Splitting at a separator

A text is cut at every separator, or at the last one. The separator itself is in
no part, so there is always one piece more than there are separators.
-/

namespace Herald.Text

/-- The pieces between separators; there is one more piece than separators. -/
def splitOn (sep : Char) : List Char → List (List Char)
  | [] => [[]]
  | c :: r =>
    if c = sep then [] :: splitOn sep r
    else
      match splitOn sep r with
      | [] => [[c]]
      | p :: ps => (c :: p) :: ps

/-- The parts before and after the last `sep`, if there is one. -/
def splitLast? (sep : Char) : List Char → Option (List Char × List Char)
  | [] => none
  | c :: r =>
    match splitLast? sep r with
    | some (a, b) => some (c :: a, b)
    | none => if c = sep then some ([], r) else none

end Herald.Text
