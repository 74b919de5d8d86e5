/-!
# Digests

A 64-bit digest of a text: the FNV-1a digest of its UTF-8 bytes. Starting from a
fixed word, each byte is first mixed in by exclusive or, and the word is then
multiplied by a fixed prime, modulo 2^64. Digests are for telling texts apart
quickly and hide nothing: different texts may have the same one.
-/

namespace Herald.Text

/-- The digest of the empty text. -/
def digestBasis : UInt64 := 0xcbf29ce484222325

/-- What a digest is multiplied by after each byte. -/
def digestPrime : UInt64 := 0x100000001b3

/-- A digest with one more byte. -/
def absorb (h : UInt64) (b : UInt8) : UInt64 := (h ^^^ b.toUInt64) * digestPrime

/-- The digest of a text. -/
def digest (s : String) : UInt64 :=
  (s.toList.flatMap String.utf8EncodeChar).foldl absorb digestBasis

end Herald.Text
