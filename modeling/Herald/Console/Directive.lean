import Herald.Console.Pattern
import Herald.Text.Numeral
import Herald.Text.Slice
import Herald.Text.Split

/-!
# Filter directives

One directive of a console filter: which diagnostics it is about, and how much
detail it lets through for them. Written out it is

    target[span{field=value}]=level

where every part may be missing. A word alone is a level if there is one of that
name, and a target otherwise; without a level everything is let through.

The value of a field is a number or a pattern.

The structure is found in the text without the blanks at its ends, but the words
are cut out of the whole text at the same positions. So a blank in front moves
every word, and one at the end belongs to the last word; and a word can be cut
inside a character, which breaks the reading off.
-/

namespace Herald.Console

/-- How much detail is let through: the verbosity of the finest severity, or 0 for nothing. -/
abbrev Verbosity := Nat

/-- Everything is let through. -/
def allDetail : Verbosity := 5

/-- The names of the levels of detail, from nothing to everything. -/
def verbosityNames : List String := ["OFF", "ERROR", "WARN", "INFO", "DEBUG", "TRACE"]

/-- The level of detail that a number from 0 to 5 or a name spells. -/
def verbosity? (word : String) : Option Verbosity :=
  match Text.Numeral.read? (allDetail + 1) word with
  | some n => some n
  | none => verbosityNames.idxOf? (Text.upperAscii word)

/-- What a directive demands of a field: that it is there, and perhaps its value. -/
structure FieldDemand where
  name : String
  value : Option String
deriving DecidableEq

/-- One directive. -/
structure Directive where
  /-- What the name of the speaker starts with. -/
  target : Option String := none
  /-- The unit of work inside which it speaks. -/
  span : Option String := none
  fields : List FieldDemand := []
  detail : Verbosity := allDetail
deriving DecidableEq

/-- Why a text is no filter. -/
inductive FilterFault where
  | malformed
  /-- A level that is neither a name nor a number from 0 to 5. -/
  | level
  /-- The value of a field that is neither a number nor a pattern. -/
  | pattern (f : PatternFault)
  /-- A word is cut inside a character. -/
  | torn (t : Text.Tear)
deriving DecidableEq

/-- The sentence shown for the fault. -/
def FilterFault.message : FilterFault → String
  | .malformed => "invalid filter directive"
  | .level =>
    "error parsing level filter: expected one of \"off\", \"error\", \"warn\", \"info\", "
      ++ "\"debug\", \"trace\", or a number 0-5"
  | .pattern f => s!"invalid field filter: {f.message}"
  | .torn t => t.message

/-- What is left to read: the structure from a position on, and the text words are cut from. -/
structure Cursor where
  guide : List Char
  position : Nat
  text : List Char

namespace Cursor

/-- A piece of a filter before anything is read. -/
def ofPiece (piece : List Char) : Cursor := ⟨Text.trimChars piece, 0, piece⟩

/-- The place behind `n` characters. -/
def drop (c : Cursor) (n : Nat) : Cursor :=
  { c with guide := c.guide.drop n, position := c.position + Text.byteLength (c.guide.take n) }

/-- The word up to the position of another place. -/
def wordTo (c stop : Cursor) : Except FilterFault String :=
  match Text.slice c.position stop.position c.text with
  | .ok cs => .ok (String.ofList cs)
  | .error t => .error (.torn t)

/-- All the rest as a word. -/
def remainder (c : Cursor) : Except FilterFault String :=
  match Text.sliceFrom c.position c.text with
  | .ok cs => .ok (String.ofList cs)
  | .error t => .error (.torn t)

/-- The place of the first of the `stops`. -/
def find (c : Cursor) (stops : List Char) : Cursor :=
  c.drop (c.guide.takeWhile fun x => !stops.contains x).length

end Cursor

namespace Directive

/-- The level behind an equals sign; nothing there means everything. -/
def readLevel (d : Directive) (c : Cursor) : Except FilterFault Directive :=
  match c.remainder with
  | .error e => .error e
  | .ok "" => .ok { d with detail := allDetail }
  | .ok word =>
    match verbosity? word with
    | some v => .ok { d with detail := v }
    | none => .error .level

/-- What follows the closing bracket. -/
def readTail (d : Directive) (c : Cursor) : Except FilterFault Directive :=
  match c.guide with
  | [] => .ok d
  | '=' :: _ => readLevel d (c.drop 1)
  | _ => .error .malformed

/-- A field with its value, if it has one. -/
def readField (word : String) : Except FilterFault FieldDemand :=
  match Text.splitOn '=' word.toList with
  | name :: value :: _ =>
    let demand : FieldDemand := ⟨String.ofList name, some (String.ofList value)⟩
    if Text.Numeral.isReal (String.ofList value) then .ok demand
    else
      match Pattern.fault? (String.ofList value) with
      | none => .ok demand
      | some f => .error (.pattern f)
  | _ => if word = "" then .error .malformed else .ok ⟨word, none⟩

/-- What follows an opening brace. -/
def readFields (d : Directive) (c : Cursor) : Except FilterFault Directive :=
  let stop := c.find ['\x7d']
  match stop.guide with
  | [] => .error .malformed
  | _ :: after =>
    match c.wordTo stop with
    | .error e => .error e
    | .ok word =>
      match readField word with
      | .error e => .error e
      | .ok f =>
        match after with
        | ']' :: _ => readTail { d with fields := d.fields ++ [f] } (stop.drop 2)
        | _ => .error .malformed

/-- What follows an opening bracket. -/
def readSpan (d : Directive) (c : Cursor) : Except FilterFault Directive :=
  let stop := c.find [']', '\x7b']
  match stop.guide with
  | [] => .error .malformed
  | x :: _ =>
    match c.wordTo stop with
    | .error e => .error e
    | .ok word =>
      if x = ']' then readTail { d with span := some word } (stop.drop 1)
      else readFields { d with span := if word = "" then none else some word } (stop.drop 1)

/-- A word alone: a level, or else a target. -/
def ofWord (word : String) : Directive :=
  match verbosity? word with
  | some v => { detail := v }
  | none => { target := some word }

/-- What starts with a word. -/
def readTarget (c : Cursor) : Except FilterFault Directive :=
  let stop := c.find ['=', '[']
  match stop.guide with
  | [] => c.remainder.map ofWord
  | x :: _ =>
    match c.wordTo stop with
    | .error e => .error e
    | .ok word =>
      if x = '=' then readLevel { target := some word } (stop.drop 1)
      else readSpan { target := some word } (stop.drop 1)

/-- Whether a word can start with this character. -/
def startsWord (c : Char) : Bool := Text.isAlphanumeric c || c = '-' || c = ':' || c = '_'

/-- The directive that a text spells. -/
def read (piece : List Char) : Except FilterFault Directive :=
  let c := Cursor.ofPiece piece
  match c.guide with
  | '[' :: _ => readSpan {} (c.drop 1)
  | x :: _ => if startsWord x then readTarget c else .error .malformed
  | [] => .error .malformed

end Directive

end Herald.Console
