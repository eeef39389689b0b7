import SourceAudit.Finding

/-!
# SourceAudit.Report.Deduplicate

One finding for each rule and line: the one with the least column, in the place of the first.
-/

namespace SourceAudit.Report

/-- Are two findings of one rule on one line of one file? -/
def sameLine (f g : Finding) : Bool :=
  f.ruleId == g.ruleId && f.path == g.path && f.line == g.line

/-- Adds a finding to a list with one finding for each rule and line: it takes the place of one
further to the right, gives way to any other, and comes last if there is none. -/
def keepEarliest (kept : List Finding) (f : Finding) : List Finding :=
  match kept with
  | [] => [f]
  | g :: gs =>
    if sameLine g f then (if f.column < g.column then f else g) :: gs
    else g :: keepEarliest gs f

/-- One finding for each rule and line. -/
def deduplicate (findings : List Finding) : List Finding := findings.foldl keepEarliest []

end SourceAudit.Report
