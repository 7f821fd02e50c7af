/-!
# Spans of code points

A Unicode property is kept as a short list of spans; membership is a linear search. A strided span
holds every `step`-th code point between its ends, which is how capitals alternate with small
letters in many scripts.
-/

set_option autoImplicit false

namespace DerivedQuery.Text

/-- A closed interval of code points. -/
structure Span where
  first : Nat
  last : Nat

namespace Span

/-- Both ends belong to the span. -/
def holds (span : Span) (code : Nat) : Bool :=
  span.first ≤ code && code ≤ span.last

/-- Is the code point in one of the spans? -/
def anyHolds (spans : List Span) (code : Nat) : Bool :=
  spans.any fun span => span.holds code

end Span

/-- Every `step`-th code point of a closed interval, starting at its first. -/
structure StridedSpan where
  first : Nat
  last : Nat
  step : Nat

namespace StridedSpan

/-- The code point lies between the ends and on the stride. -/
def holds (span : StridedSpan) (code : Nat) : Bool :=
  span.first ≤ code && code ≤ span.last && (code - span.first) % span.step == 0

end StridedSpan

end DerivedQuery.Text
