import SourceAudit.Analysis
import SourceAudit.Failure
import SourceAudit.Settings

/-!
# SourceAudit.Scan

Scans: a repository is retrieved, every file is searched, and the findings become a report. When the
time for a scan is over the report tells what was done until then.
-/

namespace SourceAudit

open Number Remote Retrieval

/-- What scans are carried out with. -/
structure Scanner where
  settings : Settings
  registry : Registry
  /-- The rules whose searches of a window never come to an end in time. -/
  stalled : List String
  /-- The rules for secrets whose searches around a window never do. -/
  stalledAround : List String := stalled

namespace Scanner

/-- The registry a scanner takes up. A registry without rules counts as if none were given, and then
the one that all scanners share is taken. -/
def chooseRegistry (given : Option Registry) (shared : Registry) : Registry :=
  match given with
  | some g => if g.rules.isEmpty then shared else g
  | none => shared

/-- A new scanner, with a registry of its own if one is given. -/
def create (settings : Settings) (given : Option Registry) (shared : Registry)
    (stalled : List String) : Scanner :=
  { settings := settings, registry := chooseRegistry given shared, stalled := stalled }

/-- How files are searched. -/
def engine (s : Scanner) : Engine :=
  { registry := s.registry
    timeBudget := s.settings.ruleTimeBudget
    maxLineLength := s.settings.maxLineLength
    stalled := s.stalled
    stalledAround := s.stalledAround }

/-- How requests are made, with the token of the caller if there is one. -/
def client (s : Scanner) (token : Option String) : Client :=
  ⟨serviceAddress? s.settings.githubApiUrl, selectToken token s.settings.githubToken,
    s.settings.maxRetries, s.settings.retryBackoffBase⟩

/-- Searches files one after the other; `none` if one cannot be searched. -/
def searchAll (e : Engine) (clock : Clock) : List Artifact → Option Engine.Outcome
  | [] => some ⟨[], []⟩
  | a :: as =>
    match (e.analyze ⟨a.path, a.content⟩ clock).1, searchAll e clock as with
    | some o, some rest => some ⟨o.findings ++ rest.findings, o.overruns ++ rest.overruns⟩
    | _, _ => none

/-- Records the planned files that are neither retrieved nor skipped when the time is over. -/
def markUnfinished (p : Progress) : Progress :=
  let done := p.files.map Artifact.path ++ p.skipped.map Skipped.path
  let left := p.planned.filter fun path => !done.contains path
  { p with skipped := p.skipped ++ left.map fun path => ⟨path, SkipReason.deadline.name⟩ }

/-- Retrieves a repository within the time for a scan. Without any time nothing is asked for. -/
def retrieveInTime (s : Scanner) (repo : Repository) (token : Option String) (session : Session) :
    Option Stop × Progress × Session :=
  if s.settings.scanDeadline.atMost 0 then (some .deadline, .start, session)
  else
    fetch (s.client token) repo s.settings.limits (session.within s.settings.scanDeadline)
      s.settings.fetchConcurrency

/-- The whole milliseconds between two readings of the clock. -/
def elapsedMs (started finished : Rat) : Int :=
  truncate (Binary64.mul (Binary64.sub finished started) 1000)

/-- The report of a retrieval that came to an end or ran out of time. -/
def report (s : Scanner) (repo : Repository) (cut : Bool) (p : Progress) (started : Rat)
    (finished : Rat) : Except Failure Report :=
  match searchAll s.engine [started] p.files, Instant.ofEpoch started with
  | some o, .ok scannedAt =>
    .ok (Report.assemble ⟨repo, p.refText, p.files.length, p.skipped, p.truncated⟩ o.findings
      scannedAt (elapsedMs started finished) o.overruns.length cut)
  | _, _ => .error .internal

/-- Scans a repository. The answer comes with the session of its requests. -/
def scan (s : Scanner) (repo : Repository) (token : Option String) (world : World) :
    Except Failure Report × Session :=
  let started := world.now
  match s.retrieveInTime repo token (.start world) with
  | (none, p, session) => (s.report repo false p started session.world.now, session)
  | (some .deadline, p, session) =>
    (s.report repo true (markUnfinished p) started session.world.now, session)
  | (some (.failed e), _, session) => (.error (.remote e), session)

end Scanner

end SourceAudit
