import Herald.Json.Value

/-!
# Reading a known shape

A structure is read into a partial value that its members fill one by one. As an
object its members may come in any order and among unknown ones; a known member
that comes twice is a mismatch as soon as its key is read. As an array it has to
give exactly all its members in the order of the shape.

Texts, flags, numbers and structures are read without a detour through `Value`.
Where another kind of value stands, a scalar is still read to its end, so that a
fault inside it is reported before the mismatch.
-/

namespace Herald.Json

/-! ## Leaves -/

/-- The fault of a value of the wrong kind. -/
def wrongKind {α : Type} (cs : List Char) : Parsed α :=
  let after {β : Type} (p : Except Fault β) : Parsed α :=
    match p with
    | .ok _ => .error .mismatch
    | .error e => .error e
  match cs with
  | [] => .error .truncated
  | 'n' :: r => after (readWord ['u', 'l', 'l'] r)
  | 't' :: r => after (readWord ['r', 'u', 'e'] r)
  | 'f' :: r => after (readWord ['a', 'l', 's', 'e'] r)
  | '"' :: r => after (readText r)
  | '[' :: _ => .error .mismatch
  | '{' :: _ => .error .mismatch
  | c :: r => if startsNumber c then after (readNumber (c :: r)) else .error .malformed

/-- A text. -/
def string : Reader String
  | '"' :: r => (readText r).map String.ofList
  | cs => wrongKind cs

/-- A flag. -/
def boolean : Reader Bool
  | 't' :: r => (readWord ['r', 'u', 'e'] r).map (true, ·)
  | 'f' :: r => (readWord ['a', 'l', 's', 'e'] r).map (false, ·)
  | cs => wrongKind cs

/-- A number that `convert` accepts. -/
def numberAs {α : Type} (convert : Number → Option α) : Reader α
  | [] => .error .truncated
  | c :: r =>
    if startsNumber c then
      (readNumber (c :: r)).andThen fun n rest =>
        match convert n with
        | some a => .ok (a, rest)
        | none => .error .mismatch
    else wrongKind (c :: r)

/-- A float; integers are taken too. -/
def float : Reader Float := numberAs fun n => some n.toFloat

/-- A 32-bit natural number. -/
def uint32 : Reader UInt32 := numberAs Number.toUInt32?

/-- A value or `null`. -/
def optional {α : Type} (read : Reader α) : Reader (Option α)
  | 'n' :: r => (readWord ['u', 'l', 'l'] r).map (none, ·)
  | cs => (read cs).map some

/-! ## Structures -/

/-- A member of a structure: its key, whether it has been read, and how to read it. -/
structure Member (α : Type) where
  key : String
  isFilled : α → Bool
  read : Nat → α → Reader α

/-- The members of a structure, in order, and what to do with the value of an unknown key. -/
structure Shape (α : Type) where
  members : List (Member α)
  unknown : String → Nat → α → Reader α

/-- Passes over the value of an unknown member. -/
def ignore {α : Type} (_ : String) (_ : Nat) (a : α) : Reader α := fun cs =>
  match skipValue (2 * cs.length + 2) cs with
  | .ok r => .ok (a, r)
  | .error e => .error e

namespace Shape

variable {α : Type}

/-- What the value behind a key does to the partial value. -/
def readMember (shape : Shape α) (depth : Nat) (key : String) (a : α) : Reader α := fun cs =>
  match shape.members.find? fun m => m.key = key with
  | some m =>
    if m.isFilled a then .error .mismatch
    else
      match afterColon cs with
      | .error e => .error e
      | .ok r => m.read depth a r
  | none =>
    match afterColon cs with
    | .error e => .error e
    | .ok r => shape.unknown key depth a r

/-- The members of an object, from behind its brace. -/
def readMembers (shape : Shape α) (depth : Nat) : Nat → Bool → α → Reader α
  | 0, _, _, _ => .error .truncated
  | fuel + 1, first, a, cs =>
    match nextKey first cs with
    | .error e => .error e
    | .ok (.close r) => .ok (a, r)
    | .ok (.item r) =>
      (readText r).andThen fun key r =>
        (shape.readMember depth (String.ofList key) a r).andThen fun a r =>
          readMembers shape depth fuel false a r

/-- The members of an array in the order of the shape, from behind its bracket. -/
def readItems (depth : Nat) : List (Member α) → Bool → α → Reader α
  | [], _, a, cs =>
    match endArray cs with
    | .error e => .error e
    | .ok r => .ok (a, r)
  | m :: ms, first, a, cs =>
    match nextItem first cs with
    | .error e => .error e
    | .ok (.close _) => .error .mismatch
    | .ok (.item r) => (m.read depth a r).andThen fun a r => readItems depth ms false a r

/-- An object of this shape. `blank` is the partial value before any member. -/
def readObject (shape : Shape α) (blank : α) (depth : Nat) : Reader α
  | '{' :: r =>
    match enter depth with
    | .error e => .error e
    | .ok inner => shape.readMembers inner (r.length + 1) true blank r
  | cs => wrongKind cs

/-- An object or an array of this shape. -/
def read (shape : Shape α) (blank : α) (depth : Nat) : Reader α
  | '[' :: r =>
    match enter depth with
    | .error e => .error e
    | .ok inner => readItems inner shape.members true blank r
  | cs => shape.readObject blank depth cs

end Shape

/-- The value that a filled structure stands for, or a mismatch when a member is missing. -/
def Parsed.finish {α β : Type} (p : Parsed α) (whole : α → Option β) : Parsed β :=
  p.andThen fun a rest =>
    match whole a with
    | some b => .ok (b, rest)
    | none => .error .mismatch

/-! ## Writing -/

/-- A member of an object as it is written. -/
def writeMember (key : String) (value : List Char) : List Char := quote key ++ ':' :: value

/-- Values with commas between them. -/
def commaSeparated : List (List Char) → List Char
  | [] => []
  | [v] => v
  | v :: vs => v ++ ',' :: commaSeparated vs

/-- An object, its members in the order given. -/
def writeObject (members : List (String × List Char)) : List Char :=
  '{' :: (commaSeparated (members.map fun m => writeMember m.1 m.2) ++ ['}'])

/-- A flag. -/
def writeBool (b : Bool) : List Char := if b then "true".toList else "false".toList

/-- A value or `null`. -/
def writeOptional {α : Type} (write : α → List Char) : Option α → List Char
  | none => "null".toList
  | some a => write a

/-- A natural number. -/
def writeNat (n : Nat) : List Char := (toString n).toList

end Herald.Json
