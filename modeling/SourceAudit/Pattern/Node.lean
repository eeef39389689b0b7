import SourceAudit.Pattern.Boundary
import SourceAudit.Pattern.Tolerance

/-!
# SourceAudit.Pattern.Node

Patterns as trees.
-/

namespace SourceAudit.Pattern

/-- A condition on a position that consumes nothing. A `wide` condition on lines takes every line
end for one and not only the line feed. -/
inductive Assertion
  /-- The start of the text. -/
  | textStart
  /-- The start, or after a line end. -/
  | lineStart (wide : Bool)
  /-- The end of the searched part. -/
  | textEnd
  /-- The end, or before a line end that is last. -/
  | lastLineEnd (wide : Bool)
  /-- The end, or before a line end. -/
  | lineEnd (wide : Bool)
  /-- Between a word character and another one, or a word character and an end. -/
  | wordEdge (ascii : Bool)
  /-- Anywhere but at a word edge. -/
  | notWordEdge (ascii : Bool)
  /-- A word edge with the word after it. -/
  | wordStart (ascii : Bool)
  /-- A word edge with the word before it. -/
  | wordEnd (ascii : Bool)
  /-- Between words of running text. -/
  | wordBreak
  /-- Anywhere but between words of running text. -/
  | notWordBreak
  /-- Between words of running text, with a word character only after it. -/
  | breakStart
  /-- Between words of running text, with a word character only before it. -/
  | breakEnd
  /-- Between perceived characters. -/
  | clusterBreak
  /-- Where the search began. -/
  | searchStart
deriving DecidableEq, Repr

/-- Does the condition hold at a position, in a search that began at `anchor`? -/
def Assertion.holds (s : Subject) (anchor pos : Nat) : Assertion → Bool
  | textStart => pos == 0
  | lineStart wide => s.atLineStart wide pos
  | textEnd => s.size ≤ pos
  | lastLineEnd wide => s.atLastLineEnd wide pos
  | lineEnd wide => s.atLineEnd wide pos
  | wordEdge ascii => s.wordBefore ascii pos != s.wordAfter ascii pos
  | notWordEdge ascii => s.wordBefore ascii pos == s.wordAfter ascii pos
  | wordStart ascii => !s.wordBefore ascii pos && s.wordAfter ascii pos
  | wordEnd ascii => s.wordBefore ascii pos && !s.wordAfter ascii pos
  | wordBreak => s.atWordBoundary pos
  | notWordBreak => !s.atWordBoundary pos
  | breakStart => s.atWordBoundary pos && !s.wordBefore false pos && s.wordAfter false pos
  | breakEnd => s.atWordBoundary pos && s.wordBefore false pos && !s.wordAfter false pos
  | clusterBreak => s.atClusterBoundary pos
  | searchStart => pos == anchor

/-- How the case of letters counts. -/
inductive CaseMode
  | exact
  /-- Characters are compared one by one, case variants being the same. -/
  | simple
  /-- Texts are compared after folding, where one character may become several. -/
  | full
deriving DecidableEq, Repr

/-- A pattern. -/
inductive Node
  | empty
  /-- Never matches. -/
  | never
  /-- One character of a set. -/
  | one (s : CharSet)
  /-- Characters whose full folding is the given text. -/
  | folded (text : List Nat)
  | cat (l r : Node)
  /-- The left pattern by preference, or else the right one. -/
  | alt (l r : Node)
  /-- A group that remembers its span under a number. -/
  | group (number : Nat) (body : Node)
  /-- A number of iterations within bounds, as many or as few as possible. -/
  | loop (bounds : Bounds) (fewest : Bool) (body : Node)
  | assertion (a : Assertion)
  /-- The body matches, or does not match, after or before the position. -/
  | look (direction : Direction) (wanted : Bool) (body : Node)
  /-- As `look`, but deciding between two patterns. -/
  | lookIf (direction : Direction) (wanted : Bool) (body yes no : Node)
  /-- The first pattern if a group has matched, and else the second; group 0 has not. -/
  | groupIf (number : Nat) (yes no : Node)
  /-- The first way in which the body matches, and no other. -/
  | atomic (body : Node)
  /-- The text that a group last matched. -/
  | backref (number : Nat) (mode : CaseMode)
  /-- What a group matches, or the whole pattern as group 0. -/
  | call (number : Nat)
  /-- The match starts here. -/
  | keep
  /-- No other way is tried for what precedes. -/
  | prune
  /-- As `prune`, and no other match starts before this position. -/
  | skip
  /-- The body with errors. -/
  | tolerant (t : Tolerance) (body : Node)
deriving DecidableEq, Repr

namespace Node

/-- The sequence of some patterns. -/
def seq : List Node → Node
  | [] => empty
  | [n] => n
  | n :: ns => cat n (seq ns)

/-- The first of some patterns that matches. -/
def anyOf : List Node → Node
  | [] => never
  | [n] => n
  | n :: ns => alt n (anyOf ns)

/-- Does the pattern consist of nothing but empty sequences? A group is never empty. -/
def isEmpty : Node → Bool
  | empty => true
  | cat l r => l.isEmpty && r.isEmpty
  | alt l r => l.isEmpty && r.isEmpty
  | loop _ _ body => body.isEmpty
  | look _ _ body => body.isEmpty
  | lookIf _ _ _ yes no => yes.isEmpty && no.isEmpty
  | groupIf _ yes no => yes.isEmpty && no.isEmpty
  | atomic body => body.isEmpty
  | tolerant _ body => body.isEmpty
  | _ => false

/-- The first group with a number. -/
def group? (number : Nat) : Node → Option Node
  | cat l r => l.group? number <|> r.group? number
  | alt l r => l.group? number <|> r.group? number
  | group n body => if n = number then some (group n body) else body.group? number
  | loop _ _ body => body.group? number
  | look _ _ body => body.group? number
  | lookIf _ _ body yes no => body.group? number <|> yes.group? number <|> no.group? number
  | groupIf _ yes no => yes.group? number <|> no.group? number
  | atomic body => body.group? number
  | tolerant _ body => body.group? number
  | _ => none

/-- Does the pattern tolerate errors anywhere? -/
def isTolerant : Node → Bool
  | cat l r => l.isTolerant || r.isTolerant
  | alt l r => l.isTolerant || r.isTolerant
  | group _ body => body.isTolerant
  | loop _ _ body => body.isTolerant
  | look _ _ body => body.isTolerant
  | lookIf _ _ body yes no => body.isTolerant || yes.isTolerant || no.isTolerant
  | groupIf _ yes no => yes.isTolerant || no.isTolerant
  | atomic body => body.isTolerant
  | tolerant _ _ => true
  | _ => false

/-! ## Where a match may start -/

/-- Can the pattern match without consuming a character? Patterns whose matches are not bounded by
their form alone count as such. -/
def mayBeEmpty : Node → Bool
  | never => false
  | one _ => false
  | cat l r => l.mayBeEmpty && r.mayBeEmpty
  | alt l r => l.mayBeEmpty || r.mayBeEmpty
  | group _ body => body.mayBeEmpty
  | loop bounds _ body => bounds.least == 0 || body.mayBeEmpty
  | lookIf _ _ _ yes no => yes.mayBeEmpty || no.mayBeEmpty
  | groupIf _ yes no => yes.mayBeEmpty || no.mayBeEmpty
  | atomic body => body.mayBeEmpty
  | _ => true

/-- The characters with which a match that consumes some may start. -/
def firsts : Node → CharSet
  | empty => .nothing
  | never => .nothing
  | one s => s
  | cat l r => if l.mayBeEmpty then .union l.firsts r.firsts else l.firsts
  | alt l r => .union l.firsts r.firsts
  | group _ body => body.firsts
  | loop _ _ body => body.firsts
  | assertion _ => .nothing
  | look _ _ _ => .nothing
  | lookIf _ _ _ yes no => .union yes.firsts no.firsts
  | groupIf _ yes no => .union yes.firsts no.firsts
  | atomic body => body.firsts
  | keep => .nothing
  | prune => .nothing
  | skip => .nothing
  | folded _ => .everything
  | backref _ _ => .everything
  | call _ => .everything
  | tolerant _ _ => .everything

/-- A set with the first character of every match of the pattern, unless a match may be empty. -/
def lead? (n : Node) : Option CharSet := if n.mayBeEmpty then none else some n.firsts

end Node

end SourceAudit.Pattern
