/-!
# Positions

A place in a document: a line, counted from zero, and a column, counted in bytes of the line.
-/

namespace ProofDesk

/-- A line and a byte column, both counted from zero. -/
structure Position where
  line : Nat
  column : Nat
  deriving DecidableEq, Repr

namespace Position

/-- The beginning of a document. -/
def start : Position := ⟨0, 0⟩

end Position
end ProofDesk
