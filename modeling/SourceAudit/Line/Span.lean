/-!
# SourceAudit.Line.Span

Spans of positions in a line, and their merging into disjoint spans that cover the same positions.
-/

namespace SourceAudit

/-- The positions from `start` up to `stop`, exclusive. -/
structure Span where
  start : Nat
  stop : Nat
deriving DecidableEq, Repr

namespace Span

/-- The order by start, then by end. -/
def le (s t : Span) : Bool := s.start < t.start || (s.start == t.start && s.stop ≤ t.stop)

/-- Joins `s` with the spans that it meets or touches at the front of an ordered list, and these
with the rest. -/
def joinFrom (s : Span) : List Span → List Span
  | [] => [s]
  | t :: ts =>
    if t.start ≤ s.stop then joinFrom ⟨s.start, max s.stop t.stop⟩ ts else s :: joinFrom t ts

/-- The spans in order, with those that overlap or touch made one. -/
def merge (spans : List Span) : List Span :=
  match spans.mergeSort le with
  | [] => []
  | s :: ss => joinFrom s ss

end Span

end SourceAudit
