/-
  SnippetScope.Unicode.Ranges

  Sets of code points written as lists of closed intervals.
-/

namespace SnippetScope.Unicode

/-- Closed intervals of code points, each given by its two ends. -/
abbrev Ranges := List (Nat × Nat)

/-- A code point is in the set when one of the intervals holds it. -/
def Ranges.has (table : Ranges) (code : Nat) : Bool :=
  table.any fun r => r.1 ≤ code && code ≤ r.2

end SnippetScope.Unicode
