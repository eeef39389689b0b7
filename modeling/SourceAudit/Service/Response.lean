import SourceAudit.Admission.Controller
import SourceAudit.Failure
import SourceAudit.Headers
import SourceAudit.Report

/-!
# SourceAudit.Service.Response

Responses of the service. The headers tell a caller the limit that applies, what is left of it, and
when to come back.
-/

namespace SourceAudit.Service

open Number

/-- A response of the service. -/
structure Response where
  status : Nat
  /-- The headers about limits; their names are in lower case. -/
  headers : Headers
  body : Json

namespace Response

/-- The header that tells the limit. -/
def limitHeader : String := "x-ratelimit-limit"

/-- The header that tells what is left of the limit. -/
def remainingHeader : String := "x-ratelimit-remaining"

/-- The header that tells in how many seconds to come back. -/
def retryHeader : String := "retry-after"

/-- A response without headers. -/
def plain (status : Nat) (body : Json) : Response := ⟨status, .empty, body⟩

/-- The answer to the question whether the service is there. -/
def healthy : Response := plain 200 (.obj [("status", .str "ok")])

/-- The answer to a body that is no text in any encoding, or beyond what is read. -/
def undecodable : Response :=
  plain 400 (.obj [("detail", .str "There was an error parsing the body")])

/-- The answer to a path that does not exist. -/
def notFound : Response := plain 404 (.obj [("detail", .str "Not Found")])

/-- The answer to a method that a path does not have. -/
def notAllowed : Response := plain 405 (.obj [("detail", .str "Method Not Allowed")])

/-- The seconds after which a caller may come back: the whole seconds until the end of the limit,
and at least one. -/
def secondsToWait (now resetAt : Instant) : Int := max 1 (truncate (now.secondsUntil resetAt))

/-- The header that tells when to come back after a failure, if it is due to a limit with a known
end. -/
def retryAfter (now : Rat) (f : Failure) : List (String × String) :=
  if f.kind.status ≠ 429 then []
  else
    match f.resetAt, Instant.ofEpoch now with
    | some resetAt, .ok now => [(retryHeader, toString (secondsToWait now resetAt))]
    | _, _ => []

/-- The headers that tell the reached limit. -/
def limits : Failure → List (String × String)
  | .quota _ _ limit => [(limitHeader, toString limit), (remainingHeader, "0")]
  | _ => []

/-- The body that describes a failure. -/
def failureBody (f : Failure) : Json :=
  .obj ([("error", .str f.message), ("kind", .str f.kind.name)] ++
    (f.resetAt.map fun t => ("resetAt", Json.str t.text)).toList)

/-- The answer to a request that fails, given at `now`. -/
def ofFailure (now : Rat) (f : Failure) : Response :=
  ⟨f.kind.status, ⟨limits f ++ retryAfter now f⟩, failureBody f⟩

/-- The answer to an admitted request with its report. -/
def ofReport (d : Admission.Decision) (r : Report) : Response :=
  ⟨200, ⟨[(limitHeader, toString d.limit), (remainingHeader, toString d.remaining)]⟩, r.json⟩

end Response

end SourceAudit.Service
