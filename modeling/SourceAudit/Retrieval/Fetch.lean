import SourceAudit.Report
import SourceAudit.Retrieval.Listing

/-!
# SourceAudit.Retrieval.Fetch

Retrieving the files of a repository. The candidates to retrieve are chosen in order, every one that
is not too large by itself and that fits into what is left of the total. A failure that concerns the
repository ends the retrieval; one that concerns a file skips the file. Once the limit of requests
is reached no further file is asked for. What was retrieved before the end of a retrieval remains
available.

Several workers retrieve the files. The one that is free first takes up the next file, and it is
free again when there is an answer for that. The requests for one file stand together here: while a
worker waits to repeat one, no other sends its own.
-/

namespace SourceAudit.Retrieval

open Remote

/-- The candidates chosen and those left out. -/
structure Plan where
  chosen : List Candidate
  skipped : List Skipped
  /-- Was one left out for want of room? -/
  truncated : Bool
deriving DecidableEq, Repr

namespace Plan

/-- The plan for some candidates, with `budget` bytes left. -/
def ofCandidates (maxFileSize : Int) : (budget : Int) → List Candidate → Plan
  | _, [] => ⟨[], [], false⟩
  | budget, c :: cs =>
    if maxFileSize < c.size then
      let rest := ofCandidates maxFileSize budget cs
      { rest with skipped := ⟨c.path, SkipReason.tooLarge.name⟩ :: rest.skipped }
    else if budget < c.size then
      let rest := ofCandidates maxFileSize budget cs
      { rest with
        skipped := ⟨c.path, SkipReason.byteBudget.name⟩ :: rest.skipped
        truncated := true }
    else
      let rest := ofCandidates maxFileSize (budget - c.size) cs
      { rest with chosen := c :: rest.chosen }

end Plan

/-- A file as retrieved. -/
structure Artifact where
  path : String
  content : List UInt8
  /-- Is the content only the first part of the file? -/
  truncated : Bool
deriving DecidableEq, Repr

/-- What a retrieval has come to. -/
structure Progress where
  /-- The version that is retrieved, once it is known. -/
  ref : Option Json
  /-- The number of candidates. -/
  considered : Nat
  /-- The paths of the files chosen. -/
  planned : List String
  files : List Artifact
  skipped : List Skipped
  truncated : Bool
  bytes : Nat

namespace Progress

/-- Nothing done. -/
def start : Progress := ⟨none, 0, [], [], [], false, 0⟩

/-- Records a file that is left out. -/
def skip (p : Progress) (path : String) (reason : SkipReason) : Progress :=
  { p with skipped := p.skipped ++ [⟨path, reason.name⟩] }

/-- Records a file that is retrieved. -/
def keep (p : Progress) (a : Artifact) : Progress :=
  { p with files := p.files ++ [a], bytes := p.bytes + a.content.length }

/-- The version as a text. -/
def refText (p : Progress) : Option String :=
  match p.ref with
  | some (.str s) => some s
  | _ => none

end Progress

/-- The first `count` items, or all but the last `-count` ones. -/
def upTo {α : Type} (count : Int) (as : List α) : List α :=
  if 0 ≤ count then as.take count.toNat else as.take (as.length - (-count).toNat)

/-- The file of a body, cut to the size that a file may have. -/
def artifactOf (limits : Limits) (path : String) (body : List UInt8) : Artifact :=
  if limits.maxFileSize < body.length then ⟨path, upTo limits.maxFileSize body, true⟩
  else ⟨path, body, false⟩

/-- Why a file is left out after an error, if the error concerns the file alone. -/
def skipReason? : Error → Option SkipReason
  | .rateLimited _ => some .rateLimited
  | .denied .. => some .accessDenied
  | .refused .. => some .accessDenied
  | .privateRepository => some .accessDenied
  | .timedOut .. => some .fetchFailed
  | .networkFailed .. => some .fetchFailed
  | .serverFailed .. => some .fetchFailed
  | .unusable _ => none

/-- The contents of a chosen file, for which the worker asks that is free first. No request can be
made for a broken path. -/
def contents (c : Client) (repo : Repository) (f : Candidate) (ref : Option String) (s : Session) :
    Except Stop (List UInt8) × Session :=
  if f.broken then (.error (.failed (.unusable .request)), s)
  else c.file repo f.path ref s.handOver

/-- What ends a retrieval of which a worker is late: a failure of another one comes before the time
is over. -/
def lateStop : Option Stop → Stop
  | some (.failed e) => .failed e
  | _ => .deadline

/-- Retrieves the chosen files in turn. A file whose response cannot be used ends the retrieval
with that error, after the files that follow it. A worker that is late takes up no other file; the
files that follow are left to the others, if there are any. -/
def retrieve (c : Client) (repo : Repository) (limits : Limits) :
    List Candidate → (limited : Bool) → Progress → Session → Option Stop × Progress × Session
  | [], _, p, s => (none, p, s)
  | f :: fs, true, p, s => retrieve c repo limits fs true (p.skip f.path .rateLimited) s
  | f :: fs, false, p, s =>
    match contents c repo f p.refText s with
    | (.ok body, s) => retrieve c repo limits fs false (p.keep (artifactOf limits f.path body)) s
    | (.error .deadline, s) =>
      if s.timer.others.isEmpty then (some .deadline, p, s.lose)
      else
        let (o, p, s) := retrieve c repo limits fs false p s.lose
        (some (lateStop o), p, s)
    | (.error (.failed e), s) =>
      match skipReason? e with
      | some .rateLimited =>
        retrieve c repo limits fs true { p.skip f.path .rateLimited with truncated := true } s
      | some reason => retrieve c repo limits fs false (p.skip f.path reason) s
      | none =>
        let (_, p, s) := retrieve c repo limits fs false p s
        (some (.failed e), p, s)

/-- Retrieves the chosen files with a number of workers. There cannot be fewer than none, and
without any the files wait until the time is over. -/
def retrieveBy (c : Client) (repo : Repository) (limits : Limits) (workers : Int)
    (fs : List Candidate) (p : Progress) (s : Session) : Option Stop × Progress × Session :=
  if workers < 0 then (some (.failed (.unusable .request)), p, s)
  else if workers = 0 ∧ fs ≠ [] then (some .deadline, p, s.lose)
  else retrieve c repo limits fs false p (s.recruit workers.toNat)

/-- Lists the files of a version, chooses among them and retrieves the chosen ones. -/
def retrieveVersion (c : Client) (repo : Repository) (limits : Limits) (workers : Int)
    (version : Json) (p : Progress) (s : Session) : Option Stop × Progress × Session :=
  match Listing.ofVersion c repo limits version s with
  | (.error e, s) => (some e, p, s)
  | (.ok none, s) => retrieveBy c repo limits workers [] p s
  | (.ok (some listing), s) =>
    let plan := Plan.ofCandidates limits.maxFileSize limits.maxTotalBytes listing.candidates
    let p := { p with
      considered := listing.candidates.length
      planned := plan.chosen.map Candidate.path
      skipped := plan.skipped
      truncated := listing.truncated || plan.truncated }
    retrieveBy c repo limits workers plan.chosen p s

/-- Retrieves the files of a repository, in the version that is meant or in its default branch, with
a number of workers. -/
def fetch (c : Client) (repo : Repository) (limits : Limits) (s : Session) (workers : Int := 1) :
    Option Stop × Progress × Session :=
  if !c.canSend then (some (.failed (.unusable .request)), .start, s)
  else
    match repo.ref.filter (· ≠ "") with
    | some ref =>
      retrieveVersion c repo limits workers (.str ref)
        { Progress.start with ref := some (.str ref) } s
    | none =>
      match c.defaultBranch repo s with
      | (.error e, s) => (some e, .start, s)
      | (.ok ref, s) =>
        retrieveVersion c repo limits workers ref { Progress.start with ref := some ref } s

end SourceAudit.Retrieval
