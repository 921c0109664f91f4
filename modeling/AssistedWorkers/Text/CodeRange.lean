/-!
# Ranges of code points

A character property is a table of ranges of code points.  A table answers for every character,
and `CodeRange.covers_iff` says what its answer means.
-/

namespace AssistedWorkers.Text

/-- The code points from `first` to `last`, both included. -/
structure CodeRange where
  first : Nat
  last : Nat
deriving Repr, DecidableEq

namespace CodeRange

/-- Whether a character lies in the range. -/
def holds (range : CodeRange) (c : Char) : Bool :=
  range.first ≤ c.toNat && c.toNat ≤ range.last

/-- Whether a character lies in some range of the table. -/
def covers (table : List CodeRange) (c : Char) : Bool :=
  table.any (·.holds c)

theorem holds_iff {range : CodeRange} {c : Char} :
    range.holds c = true ↔ range.first ≤ c.toNat ∧ c.toNat ≤ range.last := by
  simp [holds]

/-- A table covers a character exactly when one of its ranges holds it. -/
theorem covers_iff {table : List CodeRange} {c : Char} :
    covers table c = true ↔ ∃ range ∈ table, range.first ≤ c.toNat ∧ c.toNat ≤ range.last := by
  simp [covers, holds_iff]

end CodeRange

end AssistedWorkers.Text
