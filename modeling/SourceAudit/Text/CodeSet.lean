/-!
# SourceAudit.Text.CodeSet

Sets of characters held as their maximal runs of code points, in increasing order, so that
membership is a binary search.
-/

namespace SourceAudit.Text

/-- A set of characters, given by its runs of code points: each pair holds the first and the last
code point of a run, and the runs are disjoint and increasing. -/
structure CodeSet where
  runs : Array (Nat × Nat)

namespace CodeSet

/-- The set with the given runs. -/
def ofRuns (runs : List (Nat × Nat)) : CodeSet := ⟨runs.toArray⟩

/-- Looks for `code` among the runs with index in `[lo, hi)`, halving that interval at most `steps`
times. -/
def search (s : CodeSet) (code : Nat) : (steps lo hi : Nat) → Bool
  | 0, _, _ => false
  | steps + 1, lo, hi =>
    if lo < hi then
      let mid := (lo + hi) / 2
      match s.runs[mid]? with
      | none => false
      | some (first, last) =>
        if code < first then s.search code steps lo mid
        else if last < code then s.search code steps (mid + 1) hi
        else true
    else false

/-- Membership; the interval of indices is empty after as many halvings as there are runs. -/
def contains (s : CodeSet) (c : Char) : Bool :=
  s.search c.toNat (s.runs.size + 1) 0 s.runs.size

end CodeSet

end SourceAudit.Text
