/-!
# Control sequences

An escape character starts a sequence that steers a terminal and is not shown.
Which character ends it depends on how it starts: a short one ends at its first
letter or digit, one with parameters at its first letter, and a string at its
terminator. `strip` is what a terminal shows of a text: no sequence, and no
control character but those that part words and lines.

White space among the controls is shown even inside a sequence, unless the
sequence is a string. Behind it everything is shown up to the next character that
cannot be, and only there the sequence that was broken off goes on.
-/

namespace Herald.Text.ControlSequence

/-- Whether a character is in a range of characters. -/
def within (first last c : Char) : Bool := first ≤ c && c ≤ last

/-- The controls that part words and lines. -/
def isLayout (c : Char) : Bool := c = '\t' || c = '\n' || c = '\x0c' || c = '\x0d'

/-- Whether a character is shown where no sequence is open. -/
def isShown (c : Char) : Bool := within ' ' '~' c || isLayout c || '\x80' ≤ c

/-- How far a sequence has come. -/
inductive Place
  /-- No sequence is open. -/
  | outside
  /-- Behind the escape character. -/
  | escape
  /-- In a short sequence of more than one character. -/
  | intermediate
  /-- Among the parameters of a sequence that has some. -/
  | parameters
  /-- In a command to the system, a string that a bell ends. -/
  | command
  /-- At the start of a string for a device. -/
  | device
  /-- Among the parameters of a string for a device. -/
  | deviceParameters
  /-- Behind the parameters of a string for a device. -/
  | deviceIntermediate
  /-- In the body of a string. -/
  | body

/-- What the character behind the escape character starts or ends. -/
def Place.ofIntroducer (c : Char) : Place :=
  if within ' ' '/' c then .intermediate
  else if c = '[' then .parameters
  else if c = ']' then .command
  else if c = 'P' then .device
  else if c = 'X' || c = '^' || c = '_' then .body
  else if within '0' '~' c then .outside
  else .escape

/-- Whether a character has the byte that terminates strings. -/
def terminates (c : Char) : Bool := (String.utf8EncodeChar c).contains 0x9c

/-- Where a character that is not shown leads. Cancelling and escaping work everywhere. -/
def Place.next (p : Place) (c : Char) : Place :=
  if c = '\x18' || c = '\x1a' then .outside
  else if c = '\x1b' then .escape
  else match p with
    | .outside => .outside
    | .escape => ofIntroducer c
    | .intermediate => if within '0' '~' c then .outside else .intermediate
    | .parameters => if within '@' '~' c then .outside else .parameters
    | .command => if c = '\x07' then .outside else .command
    | .device =>
      if within ' ' '/' c then .deviceIntermediate
      else if within '0' '?' c then .deviceParameters
      else if within '@' '~' c then .body
      else .device
    | .deviceParameters =>
      if within ' ' '/' c then .deviceIntermediate
      else if within '<' '~' c then .body
      else .deviceParameters
    | .deviceIntermediate => if within '0' '~' c then .body else .deviceIntermediate
    | .body => if terminates c then .outside else .body

/-- Whether a character is shown at a place. -/
def Place.shows (p : Place) (c : Char) : Bool :=
  match p with
  | .outside => isShown c
  | .escape | .intermediate | .parameters => isLayout c
  | _ => false

/-- What is shown of a text, from a place on. While `showing`, the place is where an earlier
sequence was broken off, and is left alone by what is shown; a character beyond ASCII forgets it. -/
def visible (p : Place) (showing : Bool) : List Char → List Char
  | [] => []
  | c :: r =>
    if (if showing then Place.outside else p).shows c then
      c :: visible (if c < '\x80' then p else .outside) true r
    else visible (p.next c) false r

/-- What a terminal shows of a text. -/
def strip (s : String) : String := String.ofList (visible .outside false s.toList)

end Herald.Text.ControlSequence
