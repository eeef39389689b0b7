import SourceAudit.Headers
import SourceAudit.Json.Reader
import SourceAudit.Remote.Error
import SourceAudit.Text.Blank
import SourceAudit.Text.Charset

/-!
# SourceAudit.Remote.Response

Responses of GitHub, and how they are classified. A status below 400 is a success; a 403 or 429
that shows signs of a rate limit is one, and all other statuses deny access, refuse the request or
report a failure of the server.
-/

namespace SourceAudit.Remote

open Number Text

/-- A response. -/
structure Response where
  status : Nat
  headers : Headers
  body : List UInt8
deriving DecidableEq, Repr

namespace Response

/-- Does `word` occur in the text? -/
def mentions (word : List Char) : List Char → Bool
  | [] => word.isEmpty
  | c :: cs => word.isPrefixOf (c :: cs) || mentions word cs

/-- What the body of a response to a request beyond the limit says, in any case. -/
def limitPhrase : List Char := "rate limit".toList

/-- Cuts the value of a header at its semicolons, as far as these are not in quotes. `read` holds
what is read of the piece at hand, last first. -/
def parameterPieces : (quoted : Bool) → (read : List Char) → List Char → List (List Char)
  | _, read, [] => [read.reverse]
  | quoted, read, c :: cs =>
    if c = ';' ∧ !quoted then read.reverse :: parameterPieces false [] cs
    else if c = '"' ∧ read.head? ≠ some '\\' then parameterPieces (!quoted) (c :: read) cs
    else parameterPieces quoted (c :: read) cs

/-- A text without quotes around it. -/
def unquoted (cs : List Char) : List Char :=
  if 1 < cs.length ∧ cs.head? = some '"' ∧ cs.getLast? = some '"' then (cs.drop 1).dropLast else cs

/-- The value of a parameter in a piece of a header, if it is that parameter. -/
def parameterIn? (name : List Char) (piece : List Char) : Option (List Char) :=
  let key := piece.takeWhile (· ≠ '=')
  if (strip key).map asciiLowerChar = name then
    some (unquoted (strip (piece.drop (key.length + 1))))
  else none

/-- The charset of the body: the one that the response names, or else UTF-8. -/
def charset (r : Response) : Charset :=
  match r.headers.get? "content-type" with
  | none => .ascii
  | some value =>
    match (parameterPieces false [] value.toList).findSome? (parameterIn? "charset".toList) with
    | some name => .ofName name
    | none => .ascii

/-- The body as a text, if it is one in its charset. -/
def text? (r : Response) : Option (List Char) :=
  if r.body.isEmpty then some [] else r.charset.decode? r.body

/-- Is a refusal due to the limit of requests? That may hang on the text of the body, if it has
one. -/
def isRateLimited (r : Response) : Option Bool :=
  if r.status = 429 then some true
  else if r.status ≠ 403 then some false
  else if r.headers.get? "x-ratelimit-remaining" = some "0" then some true
  else if (r.headers.get? "retry-after").isSome then some true
  else r.text?.map fun cs => mentions limitPhrase (cs.map asciiLowerChar)

/-- The moment so many seconds from now that a `retry-after` header names, if it holds a number. -/
def retryAfter (value : Option String) (now : Rat) : Except EpochError (Option Instant) :=
  match (value.filter (· ≠ "")).bind readInt? with
  | none => .ok none
  | some seconds =>
    let delay := Binary64.round seconds
    if Binary64.bound ≤ delay ∨ delay ≤ -Binary64.bound then .error .tooLarge
    else (Instant.ofEpoch (Binary64.add now delay)).map some

/-- The moment that a header with seconds since 1970 names; a number outside the calendar names
none. -/
def epochHeader (value : Option String) : Except EpochError (Option Instant) :=
  match (value.filter (· ≠ "")).bind readInt? with
  | none => .ok none
  | some seconds =>
    match Instant.ofEpoch seconds with
    | .ok t => .ok (some t)
    | .error .yearTooLarge => .error .yearTooLarge
    | .error _ => .ok none

/-- The end of the limit that a response names: by `retry-after`, or else by
`x-ratelimit-reset`. -/
def limitReset (r : Response) (now : Rat) : Except EpochError (Option Instant) :=
  match retryAfter (r.headers.get? "retry-after") now with
  | .error e => .error e
  | .ok (some t) => .ok (some t)
  | .ok none => epochHeader (r.headers.get? "x-ratelimit-reset")

/-- The error of a response, if it is one. -/
def error? (r : Response) (what : String) (now : Rat) : Option Error :=
  if r.status < 400 then none
  else
    match r.isRateLimited with
    | none => some (.unusable .body)
    | some true =>
      match r.limitReset now with
      | .ok resetAt => some (.rateLimited resetAt)
      | .error e => some (.unusable (.reset e))
    | some false =>
      if r.status = 401 ∨ r.status = 403 ∨ r.status = 404 ∨ r.status = 422 then
        some (.denied what r.status)
      else if 500 ≤ r.status then some (.serverFailed what r.status)
      else some (.refused what r.status)

/-- The value of a JSON body. -/
def json? (r : Response) : Option Json := (Json.ofBytes r.body).toOption

end Response

end SourceAudit.Remote
