import SourceAudit.Remote.Error

/-!
# SourceAudit.Failure

Why a request for a scan has no report. Each failure is a cause; its kind, its wording and the
moment from which a new request makes sense are functions of it.
-/

namespace SourceAudit

/-- The kinds of failures, as callers see them. -/
inductive FailureKind
  | inputError
  | accessError
  | quotaExceeded
  | remoteRateLimited
  | remoteUnavailable
  | internalError
deriving DecidableEq, Repr

namespace FailureKind

/-- The name of a kind. -/
def name : FailureKind → String
  | inputError => "input_error"
  | accessError => "access_error"
  | quotaExceeded => "quota_exceeded"
  | remoteRateLimited => "upstream_rate_limited"
  | remoteUnavailable => "upstream_unavailable"
  | internalError => "internal_error"

/-- The status of a response that reports a failure. -/
def status : FailureKind → Nat
  | inputError => 400
  | accessError => 404
  | quotaExceeded => 429
  | remoteRateLimited => 429
  | remoteUnavailable => 502
  | internalError => 500

end FailureKind

/-- What is wrong with a request. -/
inductive InputFault
  /-- The body is not an object with texts in the right places. -/
  | unreadableBody
  | missingUrl
  | longUrl (limit : Int)
  | malformedToken
  | notRepository
deriving DecidableEq, Repr

/-- The wording of a fault in a request. -/
def InputFault.message : InputFault → String
  | unreadableBody => "Invalid request body. Expected JSON with a repoUrl field."
  | missingUrl => "repoUrl is required"
  | longUrl limit => "repoUrl must be at most " ++ toString limit ++ " characters"
  | malformedToken => "githubToken is malformed"
  | notRepository => "Invalid GitHub repository URL. Expected https://github.com/owner/repo"

/-- Which limit a caller has reached. -/
inductive Quota
  /-- The scans from one address in a short time. -/
  | burst
  /-- The scans a day of a plan. -/
  | plan
deriving DecidableEq, Repr

/-- The wording of a reached limit. -/
def Quota.message : Quota → String
  | burst => "Too many scan requests. Please wait before scanning again."
  | plan => "Scan quota for your plan is used up. Upgrade your plan or try again later."

/-- Why a request has no report. -/
inductive Failure
  | input (fault : InputFault)
  | quota (which : Quota) (resetAt : Instant) (limit : Nat)
  | remote (e : Remote.Error)
  /-- The scan could not be carried out. -/
  | internal
deriving DecidableEq, Repr

namespace Failure

/-- The kind of an error of a request to GitHub. -/
def kindOfRemote : Remote.Error → FailureKind
  | .denied .. => .accessError
  | .refused .. => .accessError
  | .privateRepository => .accessError
  | .rateLimited _ => .remoteRateLimited
  | .timedOut .. => .remoteUnavailable
  | .networkFailed .. => .remoteUnavailable
  | .serverFailed .. => .remoteUnavailable
  | .unusable _ => .internalError

/-- The kind of a failure. -/
def kind : Failure → FailureKind
  | input _ => .inputError
  | quota .. => .quotaExceeded
  | remote e => kindOfRemote e
  | internal => .internalError

/-- The wording of a failure. -/
def message : Failure → String
  | input fault => fault.message
  | quota which _ _ => which.message
  | remote e => e.message
  | internal => "Internal server error"

/-- The moment from which a new request makes sense. -/
def resetAt : Failure → Option Instant
  | quota _ resetAt _ => some resetAt
  | remote e => e.resetAt
  | _ => none

end Failure

end SourceAudit
