/-!
# Substitution into a template

Every occurrence of a placeholder is replaced, from left to right. The text put
in is not looked at again, so it may itself contain the placeholder.
-/

namespace Herald.Text

/-- The rest of `cs` after `word`, if `cs` starts with it. -/
def dropWord? : List Char → List Char → Option (List Char)
  | [], cs => some cs
  | _ :: _, [] => none
  | w :: ws, c :: cs => if w = c then dropWord? ws cs else none

/--
`word` replaced by `value` throughout `cs`. The count of characters still to be
skipped lets the recursion follow the text itself.
-/
def substituteFrom (word value : List Char) : Nat → List Char → List Char
  | _, [] => []
  | skip + 1, _ :: r => substituteFrom word value skip r
  | 0, c :: r =>
    match dropWord? word (c :: r) with
    | some _ => value ++ substituteFrom word value (word.length - 1) r
    | none => c :: substituteFrom word value 0 r

/-- Every occurrence of the placeholder `word` in `template` becomes `value`. -/
def substitute (template word value : String) : String :=
  String.ofList (substituteFrom word.toList value.toList 0 template.toList)

end Herald.Text
