import SourceAudit.Input.Problem
import SourceAudit.Instant

/-!
# SourceAudit.Remote.Error

What can go wrong with a request to GitHub. Each error is a cause; its kind, its wording and the
moment at which a limit ends are functions of it.
-/

namespace SourceAudit.Remote

/-- What a transport may report in place of a response. -/
inductive Fault
  /-- A timeout of the given name. -/
  | timeout (name : String)
  /-- A failure of the network of the given name. -/
  | network (name : String)
  /-- A body that cannot be decoded, or anything unknown. -/
  | undecodable
deriving DecidableEq, Repr

namespace Fault

/-- The names of timeouts. -/
def timeouts : List String := ["ConnectTimeout", "ReadTimeout", "WriteTimeout", "PoolTimeout"]

/-- The names of network failures. -/
def networkFailures : List String :=
  ["ConnectError", "ReadError", "WriteError", "CloseError", "RemoteProtocolError",
    "LocalProtocolError", "ProxyError", "UnsupportedProtocol"]

/-- The fault of a name. -/
def ofName (name : String) : Fault :=
  if timeouts.contains name then .timeout name
  else if networkFailures.contains name then .network name
  else .undecodable

end Fault

/-- Why a response cannot be used at all. -/
inductive Unusable
  /-- Its fault is none that is expected. -/
  | fault
  /-- Its count of remaining requests is no number. -/
  | remaining
  /-- The end of the limit that it names is no moment. -/
  | reset (cause : EpochError)
  /-- Its body is not of the expected form. -/
  | body
  /-- The request could not be made. -/
  | request
deriving DecidableEq, Repr

/-- Why a request has no result. `what` says what was asked for. -/
inductive Error
  /-- The repository is private or missing, or the token is not good enough. -/
  | denied (what : String) (status : Nat)
  /-- Refused for any other reason. -/
  | refused (what : String) (status : Nat)
  /-- The repository is private. -/
  | privateRepository
  /-- No more requests are allowed until `resetAt`. -/
  | rateLimited (resetAt : Option Instant)
  | timedOut (what name : String)
  | networkFailed (what name : String)
  | serverFailed (what : String) (status : Nat)
  | unusable (cause : Unusable)
deriving DecidableEq, Repr

namespace Error

/-- May the same request succeed a little later? -/
def isTransient : Error → Bool
  | timedOut .. => true
  | networkFailed .. => true
  | serverFailed .. => true
  | _ => false

/-- The end of the limit that caused the error. -/
def resetAt : Error → Option Instant
  | rateLimited resetAt => resetAt
  | _ => none

/-- The wording of an error. -/
def message : Error → String
  | denied what status =>
    what ++ ": repository is private, does not exist, or access was denied (" ++ toString status ++
      ")"
  | refused what status => what ++ ": GitHub returned " ++ toString status
  | privateRepository => "Repository lookup: private repositories are not supported"
  | rateLimited _ =>
    "GitHub API rate limit exceeded. Try again later or provide a GitHub token."
  | timedOut what name => what ++ ": request timed out (" ++ name ++ ")"
  | networkFailed what name => what ++ ": network error (" ++ name ++ ")"
  | serverFailed what status => what ++ ": GitHub returned " ++ toString status
  | unusable _ => "Internal server error"

end Error

end SourceAudit.Remote
