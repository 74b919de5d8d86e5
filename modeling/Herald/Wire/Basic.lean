import Herald.Decimal.Shortest
import Herald.Json.Shape
import Herald.Level.Basic

/-!
# Values on the wire

Times are floats, and a level is its bare rank. Times with a leading exponent
from -5 to 15 are written plainly.
-/

namespace Herald.Wire

open Json

/-- How times are laid out. -/
def timeLayout : Decimal.Layout := ⟨-5, 15, "+"⟩

/-- A finite time. -/
def writeTime (x : Float) : List Char := Decimal.write timeLayout x

/-- A 32-bit number. -/
def writeUInt32 (n : UInt32) : List Char := writeNat n.toNat

/-- A 64-bit number. -/
def writeUInt64 (n : UInt64) : List Char := writeNat n.toNat

/-- A level is written as its rank. -/
def writeLevel (l : Level) : List Char := writeUInt32 l.rank

/-- A level is read from its rank. -/
def readLevel (text : String) : Except Fault Level :=
  readAll (fun cs => (uint32 cs).map Level.mk) text

/-- A member that has not been read yet is filled with what `read` gives. -/
def member {α β : Type} (key : String) (get : α → Option β) (set : α → β → α)
    (read : Nat → Reader β) : Member α where
  key := key
  isFilled a := (get a).isSome
  read depth a cs := (read depth cs).map (set a)

end Herald.Wire
