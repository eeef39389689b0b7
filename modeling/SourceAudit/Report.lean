import SourceAudit.Finding.Wire
import SourceAudit.Instant
import SourceAudit.Report.Deduplicate
import SourceAudit.Report.Recommendation
import SourceAudit.Repository

/-!
# SourceAudit.Report

The report of a scan. It depends on the findings as a set and on what became of the listed files;
its lists are in a fixed order whatever the order in which files were searched.
-/

namespace SourceAudit

/-- Why a listed file was not searched. -/
inductive SkipReason
  /-- It is listed as larger than a file may be. -/
  | tooLarge
  /-- It does not fit into what is left of the total. -/
  | byteBudget
  /-- Its contents could not be had. -/
  | fetchFailed
  /-- Access to its contents was denied. -/
  | accessDenied
  /-- The limit of requests was reached. -/
  | rateLimited
  /-- The time for the scan was over. -/
  | deadline
deriving DecidableEq, Repr

/-- The name of a reason. -/
def SkipReason.name : SkipReason → String
  | tooLarge => "too_large"
  | byteBudget => "byte_budget"
  | fetchFailed => "fetch_failed"
  | accessDenied => "access_denied"
  | rateLimited => "rate_limited"
  | deadline => "deadline"

/-- A file that was listed but not searched. -/
structure Skipped where
  path : String
  reason : String
deriving DecidableEq, Repr

namespace Skipped

/-- The order by path, then by reason. -/
def le (a b : Skipped) : Bool :=
  (a.path < b.path : Bool) || (a.path == b.path && !(b.reason < a.reason : Bool))

/-- A skipped file as JSON. -/
def json (s : Skipped) : Json := .obj [("path", .str s.path), ("reason", .str s.reason)]

end Skipped

/-- The number of findings of each severity. -/
structure Summary where
  critical : Nat
  high : Nat
  medium : Nat
  low : Nat
  info : Nat
  total : Nat
deriving DecidableEq, Repr

namespace Summary

/-- The summary of some findings. -/
def of (findings : List Finding) : Summary :=
  let count (s : Severity) := findings.countP (·.severity = s)
  ⟨count .critical, count .high, count .medium, count .low, count .info, findings.length⟩

/-- A summary as JSON. -/
def json (s : Summary) : Json :=
  .obj [("critical", .nat s.critical), ("high", .nat s.high), ("medium", .nat s.medium),
    ("low", .nat s.low), ("info", .nat s.info), ("total", .nat s.total)]

end Summary

/-- A report. -/
structure Report where
  repository : Repository
  /-- The version that was scanned. -/
  ref : Option String
  findings : List Finding
  summary : Summary
  /-- From 100 for no findings down to 0. -/
  score : Nat
  recommendations : List String
  filesScanned : Nat
  filesSkipped : Nat
  skipped : List Skipped
  /-- The number of searches that ran out of time. -/
  overruns : Nat
  truncated : Bool
  scannedAt : Instant
  durationMs : Nat
deriving DecidableEq, Repr

namespace Report

/-- What a finding takes off the score. -/
def penalty : Severity → Nat
  | .critical => 20
  | .high => 12
  | .medium => 6
  | .low => 2
  | .info => 0

/-- What all findings together take off the score. -/
def penalties : List Finding → Nat
  | [] => 0
  | f :: fs => penalty f.severity + penalties fs

/-- The score of some findings: 100 less the penalties, and at least 0. -/
def scoreOf (findings : List Finding) : Nat := 100 - penalties findings

/-- The order of findings in a report: by severity, path, line, column and rule. -/
def findingLe (f g : Finding) : Bool :=
  let rank := compare f.severity.rank g.severity.rank
  let path := compareOfLessAndEq f.path g.path
  let line := compare f.line g.line
  let column := compare f.column g.column
  let rule := compareOfLessAndEq f.ruleId g.ruleId
  (rank.then (path.then (line.then (column.then rule)))).isLE

/-- The number of recommendations in a report. -/
def recommendationLimit : Int := 3

/-- What became of the listed files of a repository. -/
structure Retrieved where
  repository : Repository
  ref : Option String
  /-- The number of files retrieved. -/
  files : Nat
  skipped : List Skipped
  truncated : Bool

/-- The report of a scan. -/
def assemble (r : Retrieved) (findings : List Finding) (scannedAt : Instant) (durationMs : Int)
    (overruns : Nat) (cut : Bool) : Report :=
  let ordered := (deduplicate findings).mergeSort findingLe
  let skipped := r.skipped.mergeSort Skipped.le
  { repository := r.repository
    ref := r.ref
    findings := ordered
    summary := Summary.of ordered
    score := scoreOf ordered
    recommendations := recommend ordered recommendationLimit
    filesScanned := r.files
    filesSkipped := skipped.length
    skipped := skipped
    overruns := overruns
    truncated := cut || r.truncated
    scannedAt := scannedAt
    durationMs := durationMs.toNat }

/-- The report for a number of overruns that may come from outside; it must not be negative. -/
def assembleChecked (r : Retrieved) (findings : List Finding) (scannedAt : Instant)
    (durationMs overruns : Int) (cut : Bool) : Input.Checked Report :=
  if overruns < 0 then (Input.Checked.fail .belowLeast).inside (.key "engine_errors")
  else .good (assemble r findings scannedAt durationMs overruns.toNat cut)

/-- A report as JSON. -/
def json (r : Report) : Json :=
  .obj [("repo", r.repository.json), ("repoUrl", .str r.repository.url),
    ("repoName", .str r.repository.fullName), ("ref", Json.ofText? r.ref),
    ("findings", .arr (r.findings.map Finding.json)), ("summary", r.summary.json),
    ("securityScore", .nat r.score), ("recommendations", .arr (r.recommendations.map .str)),
    ("filesScanned", .nat r.filesScanned), ("filesSkipped", .nat r.filesSkipped),
    ("skipped", .arr (r.skipped.map Skipped.json)), ("engineErrors", .nat r.overruns),
    ("truncated", .bool r.truncated), ("scannedAt", .str r.scannedAt.text),
    ("durationMs", .nat r.durationMs)]

end Report

end SourceAudit
