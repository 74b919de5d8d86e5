/-!
# Severity levels

A level is a 32-bit rank, so that filtering is one comparison. Rank zero means
that no threshold is set and the threshold of the parent applies. Besides the
standard levels there are two of the domain: one for what the user should see
and one, just below a warning, for trouble with connections.
-/

namespace Herald

/-- A severity, known by its rank. -/
structure Level where
  rank : UInt32
deriving DecidableEq, Inhabited

namespace Level

/-- A level is below another when its rank is. -/
instance : LE Level := ⟨fun a b => a.rank ≤ b.rank⟩

instance : LT Level := ⟨fun a b => a.rank < b.rank⟩

instance (a b : Level) : Decidable (a ≤ b) := inferInstanceAs (Decidable (a.rank ≤ b.rank))

instance (a b : Level) : Decidable (a < b) := inferInstanceAs (Decidable (a.rank < b.rank))

/-- Levels are in a line, as their ranks are. -/
instance : Std.IsLinearOrder Level where
  le_refl a := Std.le_refl a.rank
  le_trans _ _ _ := Std.le_trans (α := UInt32)
  le_antisymm _ _ hab hba := congrArg Level.mk (Std.le_antisymm hab hba)
  le_total a b := Std.le_total (a := a.rank) (b := b.rank)

instance : Std.LawfulOrderLT Level where
  lt_iff a b := Std.LawfulOrderLT.lt_iff a.rank b.rank

instance : Max Level := ⟨fun a b => if a ≤ b then b else a⟩

/-- No threshold of its own. -/
def notset : Level := ⟨0⟩

/-- Detail for whoever looks for a fault. -/
def debug : Level := ⟨10⟩

/-- The ordinary course of things. -/
def info : Level := ⟨20⟩

/-- What the user of the application should see. -/
def notify : Level := ⟨25⟩

/-- Trouble with connections. -/
def network : Level := ⟨29⟩

/-- Something is not as it should be. -/
def warning : Level := ⟨30⟩

/-- Something failed. -/
def error : Level := ⟨40⟩

/-- The program cannot go on like this. -/
def critical : Level := ⟨50⟩

/-- The levels that every registry starts from, in the order in which they are registered. -/
def builtin : List (String × Level) :=
  [("NOTSET", notset), ("DEBUG", debug), ("INFO", info), ("WARNING", warning),
   ("ERROR", error), ("CRITICAL", critical), ("NOTIFY", notify), ("NETWORK", network)]

/-- The name of a rank that nobody registered. -/
def plainName (l : Level) : String := s!"Level {l.rank}"

end Level

end Herald
