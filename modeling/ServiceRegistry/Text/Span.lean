/-!
# Spans of code points

Sets of characters written as lists of closed intervals.

Results:

* `inSpans`: whether a code point lies in one of the intervals.
-/

namespace ServiceRegistry.Text

/-- A closed interval of code points, given by its two ends. -/
abbrev Span := Nat × Nat

/-- Whether a code point lies in one of the spans. -/
def inSpans (spans : List Span) (n : Nat) : Bool :=
  spans.any fun span => span.1 ≤ n && n ≤ span.2

end ServiceRegistry.Text
