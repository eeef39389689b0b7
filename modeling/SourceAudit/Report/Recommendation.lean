import SourceAudit.Finding

/-!
# SourceAudit.Report.Recommendation

Recommendations. Findings are grouped by rule, each group gives one recommendation, and the groups
are ranked: secrets before all else, then by severity and number. Of two groups with one priority
the one whose rule comes first by id wins.
-/

namespace SourceAudit.Report

/-- What one finding of a severity weighs. -/
def severityWeight : Severity → Nat
  | .critical => 900
  | .high => 700
  | .medium => 400
  | .low => 100
  | .info => 10

/-- What puts a secret before everything else. -/
def secretWeight : Nat := 10000

/-- More findings of a rule than this do not add to its priority. -/
def countedFindings : Nat := 5

/-- The priority of a group of findings. -/
def priority (severity : Severity) (category : Category) (count : Nat) : Nat :=
  if category = .secret then secretWeight + severityWeight severity
  else severityWeight severity * min count countedFindings

/-- The first of two texts that is not empty. -/
def firstNonempty (s t : String) : String := if s = "" then t else s

/-- The text without the dots at its end. -/
def withoutDots (s : String) : String :=
  String.ofList (s.toList.reverse.dropWhile (· == '.')).reverse

/-- The recommendation for a group of secrets. -/
def secretText (title : String) (count : Nat) : String :=
  if count = 1 then title ++ ": rotate it immediately and move it to environment variables"
  else
    title ++ " (" ++ toString count ++
      " occurrences): rotate them immediately and move them to environment variables"

/-- The recommendation for any other group, given its first finding. -/
def ruleText (f : Finding) (count : Nat) : String :=
  let text := firstNonempty f.recommendation ("Address " ++ firstNonempty f.title f.ruleId)
  withoutDots text ++
    (if count = 1 then " (1 occurrence)" else " (" ++ toString count ++ " occurrences)")

/-- The recommendation for a group, given its first finding. -/
def groupText (f : Finding) (count : Nat) : String :=
  if f.category = .secret then secretText (firstNonempty f.title f.ruleId) count
  else ruleText f count

/-- What the findings of one rule call for. -/
structure Advice where
  priority : Nat
  ruleId : String
  text : String
deriving DecidableEq, Repr

namespace Advice

/-- The order by falling priority, then by rule. -/
def le (a b : Advice) : Bool :=
  b.priority < a.priority || (a.priority == b.priority && !(b.ruleId < a.ruleId : Bool))

end Advice

/-- The ids of the rules that have findings, in the order of the first of each. -/
def ruleIds (findings : List Finding) : List String := (findings.map Finding.ruleId).eraseDups

/-- The findings of a rule. -/
def ofRule (findings : List Finding) (id : String) : List Finding :=
  findings.filter (·.ruleId = id)

/-- The advice for one rule, if it has findings. -/
def adviceFor? (findings : List Finding) (id : String) : Option Advice :=
  match ofRule findings id with
  | [] => none
  | f :: fs =>
    let count := (f :: fs).length
    some ⟨priority f.severity f.category count, id, groupText f count⟩

/-- The advice for all rules, in order. -/
def advice (findings : List Finding) : List Advice :=
  ((ruleIds findings).filterMap (adviceFor? findings)).mergeSort Advice.le

/-- Adds texts to `done` that it lacks, until it holds `limit` of them or more. -/
def addDistinct (limit : Int) : (done : List String) → List String → List String
  | done, [] => done
  | done, t :: ts =>
    let done := if done.contains t then done else done ++ [t]
    if limit ≤ done.length then done else addDistinct limit done ts

/-- The first distinct recommendations. Reaching the limit is noticed after one is added, so there
is at least one if there are findings. -/
def recommend (findings : List Finding) (limit : Int) : List String :=
  addDistinct limit [] ((advice findings).map Advice.text)

end SourceAudit.Report
