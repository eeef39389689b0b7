import SourceAudit.Remote.Coding
import SourceAudit.Remote.Response
import SourceAudit.Remote.Script
import SourceAudit.Remote.Target
import SourceAudit.Remote.Timer
import SourceAudit.Remote.Url

/-!
# SourceAudit.Remote.Client

Requests to GitHub. A request that fails for a transient cause is repeated a few times after growing
delays, unless the time is over before the end of one. The client remembers how many requests the
last response said to be left, and sends none while it knows that there are none. A response that
sends its reader elsewhere is not followed, but the address that it names must be one.
-/

namespace SourceAudit.Remote

open Number

namespace Response

/-- The statuses of responses that send their reader elsewhere. -/
def redirectStatuses : List Nat := [301, 302, 303, 307, 308]

/-- The address at which the reader should look instead, if the response names one. -/
def location? (r : Response) : Option String :=
  if redirectStatuses.contains r.status then r.headers.get? "location" else none

/-- What is wrong with the address that a response names. An address with a scheme and without a
host takes the host of the request, which is not possible if its path is relative. -/
def redirectFault? (r : Response) : Option Fault :=
  r.location?.bind fun location =>
    match Url.parse? location.toList with
    | none => some (.network "RemoteProtocolError")
    | some u =>
      if !u.scheme.isEmpty && u.host.isEmpty && u.path.head?.any (· ≠ '/') then some .undecodable
      else none

end Response

/-- How requests are made. -/
structure Client where
  /-- The address of the service, if it is valid. -/
  base : Option Url
  token : Option String
  /-- How often a request is repeated at most. -/
  maxRetries : Int
  /-- The delay before the first repetition, in seconds; every other one is twice the one before. -/
  backoff : Double
deriving DecidableEq

/-- A request as sent. -/
structure Request where
  url : String
  accept : String
  authorization : Option String
deriving DecidableEq, Repr

/-- The name under which requests are made. -/
def userAgent : String := "repo-scanner"

/-- The version of the service that is asked for. -/
def apiVersion : String := "2022-11-28"

/-- The requests of one scan, oldest first, and what is known from their responses. -/
structure Session where
  world : World
  requests : List Request
  requestsMade : Nat
  /-- The delays before repetitions. -/
  sleeps : List Double
  /-- How many requests are left, by the last response that said so. -/
  remaining : Option Nat
  /-- When that number is renewed. -/
  resetAt : Option Instant
  timer : Timer

namespace Session

/-- A session without requests, with any amount of time. -/
def start (world : World) : Session := ⟨world, [], 0, [], none, none, .start⟩

/-- The session with a limited amount of time. -/
def within (s : Session) (limit : Double) : Session :=
  { s with timer := { s.timer with limit := some limit } }

/-- The session after a delay. -/
def wait (s : Session) (delay : Double) : Session :=
  { s with sleeps := s.sleeps ++ [delay], timer := s.timer.wait delay }

@[simp] theorem requests_wait (s : Session) (delay : Double) :
    (s.wait delay).requests = s.requests := rfl

@[simp] theorem requestsMade_wait (s : Session) (delay : Double) :
    (s.wait delay).requestsMade = s.requestsMade := rfl

@[simp] theorem sleeps_wait (s : Session) (delay : Double) :
    (s.wait delay).sleeps = s.sleeps ++ [delay] := rfl

/-- A number of workers goes on with the session. -/
def recruit (s : Session) (workers : Nat) : Session :=
  { s with timer := s.timer.recruit workers }

@[simp] theorem requests_recruit (s : Session) (workers : Nat) :
    (s.recruit workers).requests = s.requests := rfl

/-- The worker that is free first goes on with the session. -/
def handOver (s : Session) : Session := { s with timer := s.timer.handOver }

/-- The worker at work is late, and the next one goes on with the session. -/
def lose (s : Session) : Session := { s with timer := s.timer.lose }

end Session

/-- Why a scan does not go on. -/
inductive Stop
  | failed (e : Error)
  /-- The time is over before there is an answer. -/
  | deadline
deriving DecidableEq, Repr

namespace Client

/-- The token, unless it is empty. -/
def shownToken (c : Client) : Option String := c.token.filter (· ≠ "")

/-- The value of the header that shows who makes a request: a user whom the address names, or else
the holder of the token. -/
def authorization (c : Client) (u : Url) : Option String :=
  match u.credentials with
  | some shown => some shown
  | none => c.shownToken.map ("Bearer " ++ ·)

/-- Is there a service to ask, and can the token be sent in a header? -/
def canSend (c : Client) : Bool :=
  c.base.isSome && c.shownToken.all fun s => s.toList.all fun ch => ch.toNat < 0x80

/-- The end of the limit, if no requests are known to be left before it. -/
def exhausted (s : Session) : Except Unusable (Option Instant) :=
  match s.remaining, s.resetAt with
  | some 0, some resetAt =>
    match Instant.ofEpoch s.world.now with
    | .error e => .error (.reset e)
    | .ok now => .ok (if now.micros < resetAt.micros then some resetAt else none)
  | _, _ => .ok none

/-- Remembers what a response says about the requests left. -/
def track (s : Session) (r : Response) : Except Unusable Session :=
  match r.headers.get? "x-ratelimit-remaining" with
  | none => .ok s
  | some value =>
    if value = "" || !value.toList.all Text.isAnyDigit then .ok s
    else
      match readInt? value with
      | none => .error .remaining
      | some n =>
        match Response.epochHeader (r.headers.get? "x-ratelimit-reset") with
        | .error e => .error (.reset e)
        | .ok resetAt => .ok { s with remaining := some n.toNat, resetAt := resetAt }

/-- Does a query take the status as an answer, although it is none of success? The listing of an
empty repository is answered with a conflict. -/
def accepts (q : Query) (status : Nat) : Bool :=
  match q with
  | .tree .. => status = 409
  | _ => false

/-- The error of a response to a query, if it is one. -/
def errorOf (q : Query) (r : Response) (now : Rat) : Option Error :=
  if accepts q r.status then none else r.error? q.what now

/-- What is made of the outcome of a request to an address: the body of a response is decoded, and
the response must say where to look if it sends its reader elsewhere. Without a scheme there is
nothing to be made of a response. -/
def received (u : Url) : Outcome → Outcome
  | .response r =>
    match r.plain? with
    | none => .fault .undecodable
    | some r =>
      if !u.saysHow then .fault .undecodable
      else
        match r.redirectFault? with
        | some f => .fault f
        | none => .response r
  | outcome => outcome

/-- Sends a request to an address once. -/
def sendTo (c : Client) (u : Url) (q : Query) (s : Session) : Except Stop Response × Session :=
  let (reply, script) := s.world.script.answer (.ofList u.target)
  let now := reply.now.getD s.world.now
  let s := { s with
    world := ⟨now, script⟩
    requests := s.requests ++ [⟨.ofList u.text, q.accept, c.authorization u⟩] }
  match received u reply.outcome with
  | .hang => (.error .deadline, s)
  | .fault (.timeout name) => (.error (.failed (.timedOut q.what name)), s)
  | .fault (.network name) => (.error (.failed (.networkFailed q.what name)), s)
  | .fault .undecodable => (.error (.failed (.unusable .fault)), s)
  | .response r =>
    match track s r with
    | .error e => (.error (.failed (.unusable e)), s)
    | .ok s =>
      match errorOf q r now with
      | some e => (.error (.failed e), s)
      | none => (.ok r, s)

/-- Sends a request once. -/
def send (c : Client) (repo : Repository) (q : Query) (s : Session) :
    Except Stop Response × Session :=
  match exhausted s with
  | .error e => (.error (.failed (.unusable e)), s)
  | .ok (some resetAt) => (.error (.failed (.rateLimited (some resetAt))), s)
  | .ok none =>
    let s := { s with requestsMade := s.requestsMade + 1 }
    match c.base.bind (q.address? · repo) with
    | none => (.error (.failed (.unusable .request)), s)
    | some u => c.sendTo u q s

/-- The delay before the repetition with the given index, counted from 0; there is none if the power
of two is beyond the numbers of double precision. -/
def delay? (c : Client) (index : Nat) : Option Double :=
  if index < 1024 then some (c.backoff.scale index) else none

/-- Sends a request, and again up to `retries` times while it fails for a transient cause and there
is time; `index` repetitions are done. -/
def retry (c : Client) (repo : Repository) (q : Query) :
    (retries index : Nat) → Session → Except Stop Response × Session
  | retries, index, s =>
    match c.send repo q s with
    | (.error (.failed e), s) =>
      if e.isTransient then
        match retries with
        | 0 => (.error (.failed e), s)
        | retries + 1 =>
          match c.delay? index with
          | none => (.error (.failed (.unusable .request)), s)
          | some delay =>
            if s.timer.overrun delay then (.error .deadline, s.wait delay)
            else c.retry repo q retries (index + 1) (s.wait delay)
      else (.error (.failed e), s)
    | answer => answer

/-- The response to a query. A negative number of repetitions allows no request at all. -/
def get (c : Client) (repo : Repository) (q : Query) (s : Session) :
    Except Stop Response × Session :=
  if c.maxRetries < 0 then (.error (.failed (.unusable .request)), s)
  else c.retry repo q c.maxRetries.toNat 0 s

/-- The JSON body of the response to a query. -/
def getJson (c : Client) (repo : Repository) (q : Query) (s : Session) :
    Except Stop (Response × Json) × Session :=
  match c.get repo q s with
  | (.error e, s) => (.error e, s)
  | (.ok r, s) =>
    match r.json? with
    | some j => (.ok (r, j), s)
    | none => (.error (.failed (.unusable .body)), s)

/-- The default branch of a repository, as described. Private repositories are refused. -/
def defaultBranch (c : Client) (repo : Repository) (s : Session) : Except Stop Json × Session :=
  match c.getJson repo .lookup s with
  | (.error e, s) => (.error e, s)
  | (.ok (_, .obj members), s) =>
    if (Json.lookup members "private").any Json.isTruthy then
      (.error (.failed .privateRepository), s)
    else (.ok (((Json.lookup members "default_branch").filter Json.isTruthy).getD (.str "main")), s)
  | (.ok _, s) => (.error (.failed (.unusable .body)), s)

/-- The listing of a version or directory; `none` if the repository is empty. -/
def tree (c : Client) (repo : Repository) (version : Json) (recursive : Bool) (s : Session) :
    Except Stop (Option Json) × Session :=
  match version with
  | .str version =>
    match c.get repo (.tree version recursive) s with
    | (.error e, s) => (.error e, s)
    | (.ok r, s) =>
      if r.status = 409 then (.ok none, s)
      else
        match r.json? with
        | some j => (.ok (some j), s)
        | none => (.error (.failed (.unusable .body)), s)
  | _ => (.error (.failed (.unusable .request)), s)

/-- The contents of a file. -/
def file (c : Client) (repo : Repository) (path : String) (ref : Option String) (s : Session) :
    Except Stop (List UInt8) × Session :=
  match c.get repo (.file path ref) s with
  | (.error e, s) => (.error e, s)
  | (.ok r, s) => (.ok r.body, s)

end Client

end SourceAudit.Remote
