/-!
# Room for queues

A bounded queue takes its room when it is made, one slot per entry. A position in
it is a 64-bit word that counts slots and laps around them; a lap, rounded up to a
power of two, must leave the word room for another one. And all slots together
must be addressable, for which one bit less is available.

So there are capacities for which no queue can be made; `Capacity.fault?` says
which and why. What is allowed here may still be more than a machine has.
-/

namespace Herald

/-- Why no queue of a capacity can be made. -/
inductive CapacityFault where
  /-- Its laps cannot be counted. -/
  | uncountable
  /-- Its slots cannot be addressed. -/
  | unaddressable
deriving DecidableEq

/-- The sentence shown for the fault. -/
def CapacityFault.message : CapacityFault → String
  | .uncountable => "bounded channel capacity is too large"
  | .unaddressable => "capacity overflow"

namespace Capacity

/-- The laps of a queue can be counted below so many slots. -/
def lapLimit : Nat := 1 <<< 62

/-- How many bytes can be addressed, in whole words. -/
def byteLimit : Nat := 1 <<< 63 - 8

/-- Why no queue of this capacity can be made, if none can; a slot takes `slotSize` bytes. -/
def fault? (slotSize capacity : Nat) : Option CapacityFault :=
  if lapLimit ≤ capacity then some .uncountable
  else if byteLimit < slotSize * capacity then some .unaddressable
  else none

theorem fault?_eq_none_iff {slotSize capacity : Nat} :
    fault? slotSize capacity = none ↔
      capacity < lapLimit ∧ slotSize * capacity ≤ byteLimit := by
  unfold fault?
  split
  case isTrue h => exact ⟨(nomatch ·), fun e => absurd e.1 (Nat.not_lt.mpr h)⟩
  case isFalse h =>
    split
    case isTrue h' => exact ⟨(nomatch ·), fun e => absurd e.2 (Nat.not_le.mpr h')⟩
    case isFalse h' => exact ⟨fun _ => ⟨Nat.lt_of_not_le h, Nat.le_of_not_lt h'⟩, fun _ => rfl⟩

end Capacity

end Herald
