/-! Half-open ranges of character offsets. -/

namespace ImportOrder

/-- The offsets from `start` up to, but not including, `stop`. -/
structure Span where
  start : Nat
  stop : Nat
  ordered : start ≤ stop := by omega
deriving DecidableEq, Repr

/-- Two whole numbers that bound no span. -/
structure SpanError where
  start : Int
  stop : Int
deriving DecidableEq, Repr

/-- The wording of the refusal. -/
def SpanError.message (error : SpanError) : String :=
  s!"Invalid bounds: start={error.start}, end={error.stop}"

namespace Span

/-- The number of offsets in a span. -/
def length (span : Span) : Nat := span.stop - span.start

/-- The span between two whole numbers, if the first is not negative and not above the second. -/
def ofInts (start stop : Int) : Except SpanError Span :=
  if h : 0 ≤ start ∧ start ≤ stop then .ok ⟨start.toNat, stop.toNat, by omega⟩
  else .error ⟨start, stop⟩

/-- The order by start, then by stop. -/
def precedes (a b : Span) : Bool :=
  a.start < b.start || (a.start == b.start && a.stop ≤ b.stop)

end Span

end ImportOrder
