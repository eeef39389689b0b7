import SourceAudit.Pattern.Property
import SourceAudit.Text.Fold

/-!
# SourceAudit.Pattern.CharSet

Sets of characters as patterns write them: single characters, ranges, properties, and what set
operations make of these. Characters are code points. A set may be taken without regard to case,
which adds the characters that have a case variant in it.
-/

namespace SourceAudit.Pattern

open Text

/-- A set of characters. -/
inductive CharSet
  /-- The listed characters. -/
  | anyOf (codes : List Nat)
  /-- The characters from `first` to `last`. -/
  | range (first last : Nat)
  /-- The characters with a property, which may describe ASCII only. -/
  | property (p : Property) (ascii : Bool)
  | union (l r : CharSet)
  | inter (l r : CharSet)
  /-- The characters in exactly one of two sets. -/
  | either (l r : CharSet)
  | compl (s : CharSet)
  /-- The characters with a case variant in `s`; with `ascii`, only ASCII letters have variants. -/
  | caseless (ascii : Bool) (s : CharSet)
deriving DecidableEq, Repr

namespace CharSet

/-- The characters that count as the same letter as `code`. -/
def variants (ascii : Bool) (code : Nat) : List Nat :=
  if ascii then asciiVariants code else caseVariants code

/-- Membership in a set. -/
def contains : CharSet → Nat → Bool
  | anyOf codes, c => codes.contains c
  | range first last, c => first ≤ c && c ≤ last
  | property p ascii, c => p.holds ascii c
  | union l r, c => l.contains c || r.contains c
  | inter l r, c => l.contains c && r.contains c
  | either l r, c => l.contains c != r.contains c
  | compl s, c => !s.contains c
  | caseless ascii s, c => (variants ascii c).any s.contains

/-- One character, or its case variants. -/
def literal (ignoreCase ascii : Bool) (code : Nat) : CharSet :=
  anyOf (if ignoreCase then variants ascii code else [code])

/-- No character. -/
def nothing : CharSet := anyOf []

/-- Every character. -/
def everything : CharSet := compl nothing

/-- Every character other than a line feed. -/
def withinLine : CharSet := compl (anyOf [0xA])

/-- The characters that end a line. -/
def lineEnds : CharSet := anyOf [0xA, 0xB, 0xC, 0xD, 0x85, 0x2028, 0x2029]

/-- The complement of a set, if it is wanted. -/
def complIf (negated : Bool) (s : CharSet) : CharSet := if negated then compl s else s

/-- The union of some sets. -/
def unionOf : List CharSet → CharSet
  | [] => nothing
  | [s] => s
  | s :: ss => union s (unionOf ss)

/-- The intersection of some sets. -/
def interOf : List CharSet → CharSet
  | [] => everything
  | [s] => s
  | s :: ss => inter s (interOf ss)

/-- The characters in an odd number of some sets. -/
def eitherOf : List CharSet → CharSet
  | [] => nothing
  | [s] => s
  | s :: ss => either s (eitherOf ss)

/-- The first of some sets without the others. -/
def withoutOf : List CharSet → CharSet
  | [] => nothing
  | [s] => s
  | s :: ss => inter s (compl (unionOf ss))

end CharSet

end SourceAudit.Pattern
