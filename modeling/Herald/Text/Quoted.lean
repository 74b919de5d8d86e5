import Herald.Text.Hexadecimal
import Herald.Text.Unprintable

/-!
# Quoted text

A text between quotation marks in which nothing is hidden: the mark itself,
backslashes and the common controls are escaped by a letter, and what is not
printed as itself by its code point in hexadecimal. Texts stand between double
marks and single characters between single ones.
-/

namespace Herald.Text

/-- One character between the quotation marks. -/
def quoteChar (mark c : Char) : List Char :=
  if c = '\x00' then ['\\', '0']
  else if c = '\t' then ['\\', 't']
  else if c = '\n' then ['\\', 'n']
  else if c = '\r' then ['\\', 'r']
  else if c = mark ∨ c = '\\' then ['\\', c]
  else if isUnprintable c then ['\\', 'u', '\x7b'] ++ hexadecimal c.toNat ++ ['\x7d']
  else [c]

/-- Characters between quotation marks. -/
def quoteBetween (mark : Char) (cs : List Char) : String :=
  String.ofList (mark :: (cs.flatMap (quoteChar mark) ++ [mark]))

/-- The text between quotation marks. -/
def quoted (s : String) : String := quoteBetween '"' s.toList

/-- The character between single quotation marks. -/
def quotedChar (c : Char) : String := quoteBetween '\x27' [c]

end Herald.Text
