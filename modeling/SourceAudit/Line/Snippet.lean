import SourceAudit.Line.Span
import SourceAudit.Text.Blank

/-!
# SourceAudit.Line.Snippet

Excerpts of a line around a match, with all known secrets masked. A secret is replaced by eight
asterisks, followed by its last four characters if it is longer than eight. The number of asterisks
is fixed, so that a masked text does not show how long the secret is.
-/

namespace SourceAudit.Line

open Text

/-- What a secret is replaced by. -/
def mask : List Char := List.replicate 8 '*'

/-- A secret masked. -/
def redact (secret : List Char) : List Char :=
  if secret.length ≤ 8 then mask else mask ++ secret.drop (secret.length - 4)

/-- The characters of a line from `start` up to `stop`. -/
def slice (line : List Char) (start stop : Nat) : List Char := (line.drop start).take (stop - start)

/-- The characters from `pos` up to `stop`, with every span masked that lies behind `pos` and before
`stop` at least in part; such a span is masked whole. -/
def maskFrom (line : List Char) (stop : Nat) : (pos : Nat) → List Span → List Char
  | pos, [] => slice line pos stop
  | pos, s :: ss =>
    if s.stop ≤ pos ∨ stop ≤ s.start then maskFrom line stop pos ss
    else
      slice line pos s.start ++ redact (slice line s.start s.stop) ++ maskFrom line stop s.stop ss

/-- The characters of a line from `start` up to `stop`, with the given spans masked. The spans are
ordered and disjoint. -/
def masked (line : List Char) (spans : List Span) (start stop : Nat) : List Char :=
  maskFrom line stop start spans

/-- The greatest length of an excerpt that is shown whole. -/
def snippetLength : Nat := 120

/-- The number of characters shown before a match. -/
def contextLength : Nat := 40

/-- What marks a cut. -/
def ellipsis : List Char := ['.', '.', '.']

/-- The excerpt for a match at `start` in a window: the window without the blanks at its ends if
that is short, or else a part of it from a little before the match. -/
def snippet (line : List Char) (start : Nat) (window : Span) (secrets : List Span) : List Char :=
  let whole := strip (masked line secrets window.start window.stop)
  if whole.length ≤ snippetLength then whole
  else
    let first := max window.start (start - contextLength)
    let excerpt := strip (masked line secrets first (min window.stop (first + snippetLength)))
    (if 0 < first then ellipsis else []) ++ excerpt ++ ellipsis

/-- The excerpt for a secret at `start` in a window: a little of what precedes it, and the secret
masked. -/
def secretSnippet (line : List Char) (start : Nat) (secret : List Char) (window : Span)
    (secrets : List Span) : List Char :=
  stripStart (masked line secrets (max window.start (start - contextLength)) start) ++ redact secret

end SourceAudit.Line
