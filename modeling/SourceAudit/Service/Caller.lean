import SourceAudit.Headers
import SourceAudit.Json.Reader
import SourceAudit.Text.Blank
import SourceAudit.Text.Pieces

/-!
# SourceAudit.Service.Caller

Requests to the service with the JSON that they carry, and who makes them. Proxies on the way name
the address that a request comes from, and a gateway in front of the service names the account and
its plan.
-/

namespace SourceAudit.Service

open Text

/-- A request to the service. -/
structure Request where
  method : String
  path : String
  headers : Headers
  /-- The address at the other end of the connection, if it is known. -/
  peer : Option String
  body : List UInt8
deriving DecidableEq, Repr

namespace Request

/-- Does a media type, given with its parameters, stand for JSON? -/
def isJsonType (mediaType : String) : Bool :=
  let essence := (strip (mediaType.toList.takeWhile (· ≠ ';'))).map asciiLowerChar
  match piecesBetween '/' essence with
  | [type, subtype] =>
    type = "application".toList &&
      (subtype = "json".toList || "+json".toList.isSuffixOf subtype)
  | _ => false

/-- Is the body to be read as JSON? Without a media type it is. -/
def hasJsonBody (r : Request) : Bool :=
  ((r.headers.first? "content-type").filter (· ≠ "")).all isJsonType

/-- The JSON value of the body, null if it has none. -/
def content (r : Request) : Except Json.ReadError Json :=
  if r.body.isEmpty || !r.hasJsonBody then .ok .null else Json.ofBytes r.body

end Request

/-- The caller of the service. -/
structure Caller where
  address : String
  /-- The account that scans are counted for; without one it is the address. -/
  account : String
  /-- The plan of the account, if one is named. -/
  tier : Option String
deriving DecidableEq, Repr

namespace Caller

/-- The trimmed text, if anything is left of it. -/
def filled? (cs : List Char) : Option String :=
  if (strip cs).isEmpty then none else some (.ofList (strip cs))

/-- The first address that a list of proxies names. -/
def firstHop? (forwarded : String) : Option String :=
  filled? (forwarded.toList.takeWhile (· ≠ ','))

/-- The address of a caller: the first one that the proxies name, or else the one that the last
proxy names, or else that of the connection. -/
def addressOf (headers : Headers) (peer : Option String) : String :=
  match (headers.first? "x-forwarded-for").bind firstHop? with
  | some address => address
  | none =>
    match (headers.first? "x-real-ip").bind (filled? ·.toList) with
    | some address => address
    | none => (peer.filter (· ≠ "")).getD "unknown"

/-- The caller of a request. -/
def ofRequest (r : Request) : Caller :=
  let address := addressOf r.headers r.peer
  { address := address
    account := ((r.headers.first? "x-account-id").filter (· ≠ "")).getD address
    tier := r.headers.first? "x-plan-tier" }

end Caller

end SourceAudit.Service
