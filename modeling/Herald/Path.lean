import Herald.Text.Split

/-!
# Paths

A path is read as its list of components: the root if it starts with a slash,
then the names between slashes. Repeated and trailing slashes vanish, and so
does a single dot, except at the very start of a relative path. Two dots stay a
component.

`endsWith` compares whole components, so a path that starts at the root is a
suffix of itself only. `fileName?`, `parentName?` and `stem?` are the parts that
file names are recognised by.
-/

namespace Herald

/-- One step of a path. -/
inductive Component where
  | root
  | here
  | up
  | name (n : List Char)
deriving DecidableEq

namespace Path

/-- What a piece between slashes stands for, if anything. -/
def ofPiece? (piece : List Char) : Option Component :=
  if piece = [] ∨ piece = ['.'] then none
  else if piece = ['.', '.'] then some .up
  else some (.name piece)

/-- The components of a path. -/
def components (path : List Char) : List Component :=
  match Text.splitOn '/' path with
  | [] => []
  | first :: rest =>
    let tail := rest.filterMap ofPiece?
    if first = [] then
      if rest = [] then [] else .root :: tail
    else if first = ['.'] then .here :: tail
    else (ofPiece? first).toList ++ tail

/-- Whether the components of `suffix` are the last ones of `path`. -/
def endsWith (path suffix : String) : Bool :=
  (components suffix.toList).isSuffixOf (components path.toList)

/-- The last component, if it is a name. -/
def fileName? (path : List Char) : Option (List Char) :=
  match (components path).getLast? with
  | some (.name n) => some n
  | _ => none

/-- The name of the directory that the path is in: the last component but one, if it is a name. -/
def parentName? (path : List Char) : Option (List Char) :=
  match (components path).reverse with
  | .root :: _ => none
  | _ :: .name n :: _ => some n
  | _ => none

/-- A file name without its last extension. A leading dot starts no extension. -/
def dropExtension (n : List Char) : List Char :=
  match Text.splitLast? '.' n with
  | some ([], _) => n
  | some (before, _) => before
  | none => n

/-- The file name without its extension. -/
def stem? (path : List Char) : Option (List Char) := (fileName? path).map dropExtension

end Path

end Herald
