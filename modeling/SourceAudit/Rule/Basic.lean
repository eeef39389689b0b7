import SourceAudit.Finding
import SourceAudit.Glob
import SourceAudit.Path
import SourceAudit.Pattern.Search

/-!
# SourceAudit.Rule.Basic

Rules: a pattern searched in every line of the files whose paths its globs select. A rule for
secrets names the group that holds the secret, and passes over safe lines, which refer to a secret
without containing one.
-/

namespace SourceAudit

/-- A rule. -/
structure Rule where
  id : String
  category : Category
  severity : Severity
  title : String
  pattern : Pattern
  /-- Globs of the paths to search. -/
  appliesTo : List String
  /-- Globs of the paths to leave out. -/
  exclude : List String
  description : String
  recommendation : String
  /-- The group that holds the secret; 0 is the whole match. -/
  secretGroup : Nat
  /-- Patterns of the lines to pass over. -/
  safeLines : List Pattern
deriving DecidableEq, Repr

namespace Rule

/-- Does a glob match the path or its last component? -/
def selects (path : String) (glob : String) : Bool :=
  globMatches glob path || globMatches glob (Path.name path)

/-- Is the rule for files at this path? -/
def applies (r : Rule) (path : String) : Bool :=
  !r.exclude.any (selects path) && r.appliesTo.any (selects path)

/-- Is the line one to pass over? -/
def isSafeLine (r : Rule) (line : List Char) : Bool :=
  r.safeLines.any (·.occursIn line)

/-- Is it a rule for secrets? -/
def isSecret (r : Rule) : Bool := r.category = .secret

end Rule

end SourceAudit
