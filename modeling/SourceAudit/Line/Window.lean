import SourceAudit.Line.Span

/-!
# SourceAudit.Line.Window

Windows of a line. A line that is too long to be searched at once is searched in windows of equal
size, which share some characters with their neighbours so that a short match at an edge is seen
whole.
-/

namespace SourceAudit.Line

/-- The characters that neighbouring windows share, unless that is more than half a window. -/
def windowOverlap : Nat := 256

/-- The windows of `size` characters that start at `start`, `start + step`, …, up to the first one
that reaches the end of the line. With a step of at least one there are at most `length` of them,
which is what `fuel` counts. -/
def windowsFrom (size step length : Nat) : (fuel start : Nat) → List Span
  | 0, _ => []
  | fuel + 1, start =>
    if start < length then
      let window : Span := ⟨start, min (start + size) length⟩
      if length ≤ start + size then [window]
      else window :: windowsFrom size step length fuel (start + step)
    else []

/-- The windows that cover a line: the line itself if it is not longer than `size`. There is no
answer for a size and an overlap that make the windows stand still, and there are no windows if they
move backward. -/
def windows? (length : Nat) (size overlap : Int) : Option (List Span) :=
  if (length : Int) ≤ size then some [⟨0, length⟩]
  else
    let step := size - min overlap (size / 2)
    if step = 0 then none
    else if step < 0 then some []
    else some (windowsFrom size.toNat step.toNat length length 0)

end SourceAudit.Line
