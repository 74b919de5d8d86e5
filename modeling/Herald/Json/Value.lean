import Herald.Json.Number
import Herald.Json.Text

/-!
# JSON values

Most of what this library reads has a known shape and never becomes a `Value`.
Values are for members whose meaning is settled only after the whole object has
been read. Nesting is limited there; a value that nobody wants is skipped, and
then nesting is not limited.

The first argument of the recursive readers bounds their steps. The length of
the text is always enough, because each step takes at least one character.
-/

namespace Herald.Json

/-- Any JSON value. -/
inductive Value where
  | null
  | bool (b : Bool)
  | number (n : Number)
  | text (s : String)
  | array (items : List Value)
  | object (members : List (String × Value))

/-! ## Separators -/

/-- What comes next in an array or object. -/
inductive Next where
  /-- The closing bracket, passed. -/
  | close (rest : List Char)
  /-- The next item, from its first character. -/
  | item (rest : List Char)

/-- The step to the next item of an array; `first` before the first one. -/
def nextItem (first : Bool) (cs : List Char) : Except Fault Next :=
  match skipSpace cs with
  | [] => .error .truncated
  | ']' :: r => .ok (.close r)
  | c :: r =>
    if first then .ok (.item (c :: r))
    else if c = ',' then
      match skipSpace r with
      | [] => .error .truncated
      | ']' :: _ => .error .malformed
      | r' => .ok (.item r')
    else .error .malformed

/-- The step to the next member of an object, up to behind the quotation mark of its key. -/
def nextKey (first : Bool) (cs : List Char) : Except Fault Next :=
  match skipSpace cs with
  | [] => .error .truncated
  | '}' :: r => .ok (.close r)
  | c :: r =>
    if first then if c = '"' then .ok (.item r) else .error .malformed
    else if c = ',' then
      match skipSpace r with
      | [] => .error .truncated
      | '"' :: r' => .ok (.item r')
      | _ => .error .malformed
    else .error .malformed

/-- The value behind the colon of a member, from its first character. -/
def afterColon (cs : List Char) : Except Fault (List Char) :=
  match skipSpace cs with
  | [] => .error .truncated
  | ':' :: r => .ok (skipSpace r)
  | _ => .error .malformed

/-- The end of an array that has to have no further item. -/
def endArray (cs : List Char) : Except Fault (List Char) :=
  match skipSpace cs with
  | [] => .error .truncated
  | ']' :: r => .ok r
  | _ => .error .malformed

/-! ## Values that nobody wants -/

mutual

/-- What is left behind a value. -/
def skipValue : Nat → List Char → Except Fault (List Char)
  | 0, _ => .error .truncated
  | fuel + 1, cs =>
    match cs with
    | [] => .error .truncated
    | 'n' :: r => readWord ['u', 'l', 'l'] r
    | 't' :: r => readWord ['r', 'u', 'e'] r
    | 'f' :: r => readWord ['a', 'l', 's', 'e'] r
    | '"' :: r => skipText r
    | '[' :: r => skipItems fuel true r
    | '{' :: r => skipMembers fuel true r
    | c :: r => if startsNumber c then skipNumber (c :: r) else .error .malformed

/-- What is left behind the items of an array. -/
def skipItems : Nat → Bool → List Char → Except Fault (List Char)
  | 0, _, _ => .error .truncated
  | fuel + 1, first, cs =>
    match nextItem first cs with
    | .error e => .error e
    | .ok (.close r) => .ok r
    | .ok (.item r) =>
      match skipValue fuel r with
      | .error e => .error e
      | .ok r => skipItems fuel false r

/-- What is left behind the members of an object. -/
def skipMembers : Nat → Bool → List Char → Except Fault (List Char)
  | 0, _, _ => .error .truncated
  | fuel + 1, first, cs =>
    match nextKey first cs with
    | .error e => .error e
    | .ok (.close r) => .ok r
    | .ok (.item r) =>
      match skipText r with
      | .error e => .error e
      | .ok r =>
        match afterColon r with
        | .error e => .error e
        | .ok r =>
          match skipValue fuel r with
          | .error e => .error e
          | .ok r => skipMembers fuel false r

end

/-! ## Values that are kept -/

/-- The nesting left inside an array or object, if it may be opened at all. -/
def enter (depth : Nat) : Except Fault Nat :=
  if depth ≤ 1 then .error .malformed else .ok (depth - 1)

mutual

/-- A value, with at most `depth - 1` arrays and objects around each other. -/
def readValue : Nat → Nat → Reader Value
  | 0, _, _ => .error .truncated
  | fuel + 1, depth, cs =>
    match cs with
    | [] => .error .truncated
    | 'n' :: r => (readWord ['u', 'l', 'l'] r).map (.null, ·)
    | 't' :: r => (readWord ['r', 'u', 'e'] r).map (.bool true, ·)
    | 'f' :: r => (readWord ['a', 'l', 's', 'e'] r).map (.bool false, ·)
    | '"' :: r => (readText r).map fun s => .text (String.ofList s)
    | '[' :: r =>
      match enter depth with
      | .error e => .error e
      | .ok inner => (readItems fuel inner true r).map .array
    | '{' :: r =>
      match enter depth with
      | .error e => .error e
      | .ok inner => (readMembers fuel inner true r).map .object
    | c :: r => if startsNumber c then (readNumber (c :: r)).map .number else .error .malformed

/-- The items of an array, from behind its bracket. -/
def readItems : Nat → Nat → Bool → Reader (List Value)
  | 0, _, _, _ => .error .truncated
  | fuel + 1, depth, first, cs =>
    match nextItem first cs with
    | .error e => .error e
    | .ok (.close r) => .ok ([], r)
    | .ok (.item r) =>
      (readValue fuel depth r).andThen fun v r =>
        (readItems fuel depth false r).map (v :: ·)

/-- The members of an object, from behind its brace. -/
def readMembers : Nat → Nat → Bool → Reader (List (String × Value))
  | 0, _, _, _ => .error .truncated
  | fuel + 1, depth, first, cs =>
    match nextKey first cs with
    | .error e => .error e
    | .ok (.close r) => .ok ([], r)
    | .ok (.item r) =>
      (readText r).andThen fun key r =>
        match afterColon r with
        | .error e => .error e
        | .ok r =>
          (readValue fuel depth r).andThen fun v r =>
            (readMembers fuel depth false r).map ((String.ofList key, v) :: ·)

end

end Herald.Json
