import Herald.Capacity
import Herald.Text.Slice

/-!
# Breakdowns

Some inputs make an operation break off instead of failing in an orderly way: it
has no answer, and a program that does nothing about it ends. The causes are a
word cut inside a character and a queue too large to be made.
-/

namespace Herald

/-- Why an operation breaks off. -/
inductive Breakdown where
  | torn (t : Text.Tear)
  | capacity (f : CapacityFault)
deriving DecidableEq

/-- The sentence shown for the breakdown. -/
def Breakdown.message : Breakdown → String
  | .torn t => t.message
  | .capacity f => f.message

/-- The exit status of a program that ends this way. -/
def Breakdown.exitStatus : Nat := 101

end Herald
