import SourceAudit.Line.Snippet
import SourceAudit.Line.Split
import SourceAudit.Line.Window
import SourceAudit.Number.Shortest
import SourceAudit.Rule.Registry

/-!
# SourceAudit.Analysis

Searching a file with the rules of a registry. Every rule searches every line, within a budget of
time for each rule and file; a rule that overruns its budget reports an overrun instead of its
findings, and the others are not affected. Snippets are masked with the secrets that all secret
rules of the registry find around the match, whether or not these rules are for the file.
-/

namespace SourceAudit

open Number Line

/-- Readings of a clock still to come, in seconds. The last one repeats, and a clock without
readings stands at zero. -/
abbrev Clock := List Rat

namespace Clock

/-- The next reading, and the clock after it. -/
def read : Clock → Rat × Clock
  | [] => (0, [])
  | [t] => (t, [t])
  | t :: ts => (t, ts)

end Clock

/-- How files are searched. -/
structure Engine where
  registry : Registry
  /-- The seconds that a rule may spend on a file. -/
  timeBudget : Double
  /-- Lines longer than this are searched in windows. -/
  maxLineLength : Int
  /-- The rules whose searches of a window never come to an end in time. -/
  stalled : List String
  /-- The rules for secrets whose searches around a window never do. These have a limit of their own
  and go farther than the window. -/
  stalledAround : List String := stalled

/-- A rule that ran out of time on a file. -/
structure Overrun where
  ruleId : String
  path : String
  /-- The seconds that the rule had. -/
  budget : Double
  /-- The line that it had come to. -/
  line : Nat
deriving DecidableEq, Repr

/-- The wording of an overrun. -/
def Overrun.message (o : Overrun) : String :=
  "exceeded " ++ o.budget.text ++ "s time budget at line " ++ toString o.line

/-- A file to be searched. -/
structure SourceFile where
  path : String
  content : List UInt8

/-- The secrets found so far around the windows of a file, by line and start of the window. -/
abbrev SecretCache := List ((Nat × Nat) × List Span)

/-- Why the search of a file with one rule ends early. -/
inductive Interruption
  /-- The time of the rule is over. -/
  | overrun (line : Nat)
  /-- A line is too long, and no window moves forward. -/
  | stuckWindow
deriving DecidableEq, Repr

/-- What one rule hands on to the next: the clock and the secrets found. -/
structure Shared where
  clock : Clock
  cache : SecretCache

namespace Engine

/-- The spans of the secrets between two positions of a line: what the secret groups of all secret
rules match there, merged. If one of these searches takes too long, everything counts as secret. -/
def secretSpans (e : Engine) (line : List Char) (start stop : Nat) : List Span :=
  let rules := e.registry.secretRules
  if rules.any fun r => e.stalledAround.contains r.id then [⟨start, stop⟩]
  else
    Span.merge (rules.flatMap fun r =>
      (r.pattern.findAll line start stop).filterMap fun m =>
        (m.span? r.secretGroup).bind fun (a, b) => if a < b then some ⟨a, b⟩ else none)

/-- The secrets around a window of a line, as far as windows overlap. -/
def windowSecrets (e : Engine) (line : List Char) (window : Span) : List Span :=
  e.secretSpans line (window.start - windowOverlap) (min line.length (window.stop + windowOverlap))

/-- The secrets around a window, from the cache if they are in it. -/
def cachedSecrets (e : Engine) (number : Nat) (line : List Char) (window : Span)
    (cache : SecretCache) : List Span × SecretCache :=
  match cache.find? (·.1 = (number, window.start)) with
  | some (_, secrets) => (secrets, cache)
  | none =>
    let secrets := e.windowSecrets line window
    (secrets, ((number, window.start), secrets) :: cache)

/-- The group whose place a rule reports. -/
def reportedGroup (r : Rule) : Nat := if r.isSecret then r.secretGroup else 0

/-- Where a match is reported: at the reported group if that took part, or else at its start. -/
def reportedStart (r : Rule) (m : Match) : Nat :=
  match m.span? (reportedGroup r) with
  | some (start, _) => start
  | none => m.start

/-- The text of the reported group, empty if it took no part. -/
def reportedText (r : Rule) (line : List Char) (m : Match) : List Char :=
  match m.span? (reportedGroup r) with
  | some (start, stop) => slice line start stop
  | none => []

/-- The finding of a match. -/
def findingOf (r : Rule) (path : String) (number : Nat) (line : List Char) (window : Span)
    (secrets : List Span) (m : Match) : Finding :=
  let start := reportedStart r m
  let excerpt :=
    if r.isSecret then secretSnippet line start (reportedText r line m) window secrets
    else snippet line start window secrets
  { ruleId := r.id
    path := path
    line := number
    column := byteColumn line start
    snippet := String.ofList excerpt
    severity := r.severity
    category := r.category
    title := r.title
    description := r.description
    recommendation := r.recommendation }

/-- The findings of the matches in a window. A place in `seen` is not reported again. -/
def windowFindings (e : Engine) (r : Rule) (path : String) (number : Nat) (line : List Char)
    (window : Span) : List Match → (seen : List Nat) → SecretCache →
      List Finding × List Nat × SecretCache
  | [], seen, cache => ([], seen, cache)
  | m :: ms, seen, cache =>
    let start := reportedStart r m
    if seen.contains start then windowFindings e r path number line window ms seen cache
    else
      let (secrets, cache) := e.cachedSecrets number line window cache
      let (findings, seen, cache) :=
        windowFindings e r path number line window ms (start :: seen) cache
      (findingOf r path number line window secrets m :: findings, seen, cache)

/-- The findings in the windows of a line. The clock is read before each window, and the rule must
have time left. -/
def lineFindings (e : Engine) (r : Rule) (path : String) (deadline : Double) (number : Nat)
    (line : List Char) : List Span → (seen : List Nat) → Shared →
      Except Interruption (List Finding) × Shared
  | [], _, sh => (.ok [], sh)
  | window :: windows, seen, sh =>
    let (now, clock) := sh.clock.read
    let sh := { sh with clock := clock }
    if (deadline.plus (-now)).atMost 0 then (.error (.overrun number), sh)
    else if window.start = window.stop then
      lineFindings e r path deadline number line windows seen sh
    else if e.stalled.contains r.id then (.error (.overrun number), sh)
    else
      let ms := r.pattern.findAll line window.start window.stop
      let (findings, seen, cache) := e.windowFindings r path number line window ms seen sh.cache
      let (rest, sh) :=
        lineFindings e r path deadline number line windows seen { sh with cache := cache }
      (rest.map (findings ++ ·), sh)

/-- The findings in the lines of a file, counted from `number`. Secret rules pass over safe
lines. -/
def linesFindings (e : Engine) (r : Rule) (path : String) (deadline : Double) :
    (number : Nat) → List (List Char) → Shared → Except Interruption (List Finding) × Shared
  | _, [], sh => (.ok [], sh)
  | number, line :: lines, sh =>
    if r.isSecret && !line.isEmpty && r.isSafeLine line then
      linesFindings e r path deadline (number + 1) lines sh
    else
      match windows? line.length e.maxLineLength windowOverlap with
      | none => (.error .stuckWindow, sh)
      | some windows =>
        match e.lineFindings r path deadline number line windows [] sh with
        | (.error i, sh) => (.error i, sh)
        | (.ok findings, sh) =>
          let (rest, sh) := linesFindings e r path deadline (number + 1) lines sh
          (rest.map (findings ++ ·), sh)

/-- What one rule finds in a file. The clock is read once for the deadline. -/
def evaluate (e : Engine) (r : Rule) (path : String) (lines : List (List Char)) (sh : Shared) :
    Except Interruption (List Finding) × Shared :=
  let (now, clock) := sh.clock.read
  e.linesFindings r path (e.timeBudget.plus now) 1 lines { sh with clock := clock }

/-- The findings and overruns of a file. -/
structure Outcome where
  findings : List Finding
  overruns : List Overrun
deriving DecidableEq, Repr

/-- What some rules find in a file, one after the other; `none` if the windows of a line stand
still. -/
def evaluateAll (e : Engine) (path : String) (lines : List (List Char)) :
    List Rule → Shared → Option Outcome × Shared
  | [], sh => (some ⟨[], []⟩, sh)
  | r :: rules, sh =>
    match e.evaluate r path lines sh with
    | (.error .stuckWindow, sh) => (none, sh)
    | (.error (.overrun number), sh) =>
      let (rest, sh) := evaluateAll e path lines rules sh
      let overrun : Overrun := ⟨r.id, path, e.timeBudget, number⟩
      (rest.map fun o => { o with overruns := overrun :: o.overruns }, sh)
    | (.ok findings, sh) =>
      let (rest, sh) := evaluateAll e path lines rules sh
      (rest.map fun o => { o with findings := findings ++ o.findings }, sh)

/-- What the rules of the registry find in a file. -/
def analyze (e : Engine) (file : SourceFile) (clock : Clock) : Option Outcome × Clock :=
  let (outcome, sh) :=
    e.evaluateAll file.path (split file.content) (e.registry.applicable file.path) ⟨clock, []⟩
  (outcome, sh.clock)

end Engine

end SourceAudit
