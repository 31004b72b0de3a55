/-!
# Sets of characters as spans of code points

A property of characters that a standard gives by table is kept as a list of closed intervals of
code points, ascending and disjoint. That is how the standard prints it, it is short, and a
question about the property becomes a question about finitely many intervals.
-/

namespace Translucency.Text

/-- Closed intervals of code points. -/
abbrev Spans := List (Nat × Nat)

def Spans.covers (spans : Spans) (point : Nat) : Bool :=
  spans.any fun span => span.1 ≤ point && point ≤ span.2

theorem Spans.covers_iff (spans : Spans) (point : Nat) :
    spans.covers point = true ↔ ∃ span ∈ spans, span.1 ≤ point ∧ point ≤ span.2 := by
  simp [Spans.covers]

end Translucency.Text
