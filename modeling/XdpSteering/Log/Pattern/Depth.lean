/-!
# Depth of patterns

How deep the parts of a pattern are nested. A group, a class, a repetition, and several parts or
alternatives each are one level above what they hold.
-/

namespace XdpSteering.Log.Pattern

/-- The most levels of a pattern. -/
def maxDepth : Nat := 250

/-- Parts side by side: how many there are, and the depth of the deepest. -/
structure Row where
  count : Nat := 0
  deepest : Nat := 0
  deriving DecidableEq, Repr

namespace Row

/-- The row with one more part of a depth. -/
def add (row : Row) (depth : Nat) : Row := ⟨row.count + 1, max row.deepest depth⟩

/-- The row with its last part replaced by a deeper one. -/
def deepen (row : Row) (depth : Nat) : Row := { row with deepest := max row.deepest depth }

/-- The depth of the row: a single part is no row. -/
def depth (row : Row) : Nat := if row.count ≤ 1 then row.deepest else row.deepest + 1

end Row

end XdpSteering.Log.Pattern
