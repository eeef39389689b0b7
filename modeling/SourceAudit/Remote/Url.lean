import SourceAudit.Number.Reading
import SourceAudit.Remote.Host
import SourceAudit.Text.Base64
import SourceAudit.Text.Percent
import SourceAudit.Text.Pieces

/-!
# SourceAudit.Remote.Url

Addresses by their parts. `Url.parse?` splits an address and brings every part into ASCII,
`Url.text` writes it, and `Url.extend?` gives the address of something below it.
-/

namespace SourceAudit.Remote

open Text

/-- An address. Its parts are in ASCII. -/
structure Url where
  scheme : List Char
  /-- The name and the password of a user, with a colon between them. -/
  user : List Char
  host : List Char
  /-- The number after the host, unless the scheme implies it. -/
  number : Option Int
  path : List Char
  query : Option (List Char)
  fragment : Option (List Char)
deriving DecidableEq, Repr

namespace Url

/-- The most characters of an address, and of each of its parts. -/
def maxLength : Nat := 65536

/-- A character of ASCII that cannot be seen. -/
def isControl (c : Char) : Bool := c.toNat < 0x20 || c.toNat = 0x7F

/-! ## Parts -/

/-- The marks that are encoded in a fragment. -/
def fragmentMarks : List Char := "\"<>\x60".toList

/-- The marks that are encoded in a query. -/
def queryMarks : List Char := "\"#<>".toList

/-- The marks that are encoded in a path. -/
def pathMarks : List Char := "\"#<>?\x60\x7b\x7d".toList

/-- The marks that are encoded in the name and the password of a user. -/
def userMarks : List Char := pathMarks ++ "/;=@[\\]^|".toList

/-- A part up to the first of some characters, and the rest. -/
def upTo (ends cs : List Char) : List Char × List Char :=
  (cs.takeWhile fun c => !ends.contains c, cs.dropWhile fun c => !ends.contains c)

/-- A scheme, or nothing. -/
def isScheme (cs : List Char) : Bool :=
  !cs.head?.any (fun c => !isAsciiLetter c) &&
    cs.all fun c => isAsciiLetter c || isAsciiDigit c || c == '+' || c == '.' || c == '-'

/-- The scheme in front of a colon, if there is one, and the rest. -/
def splitScheme (cs : List Char) : List Char × List Char :=
  match upTo [':'] cs with
  | (scheme, ':' :: rest) => if isScheme scheme then (scheme, rest) else ([], cs)
  | _ => ([], cs)

/-- The authority after two slashes, if there is one, and the rest. -/
def splitAuthority : List Char → List Char × List Char
  | '/' :: '/' :: rest => upTo ['/', '?', '#'] rest
  | cs => ([], cs)

/-- What follows a mark at the start of a text, up to another mark, if the text starts so. -/
def splitMarked (mark : Char) (ends cs : List Char) : Option (List Char) × List Char :=
  match cs with
  | [] => (none, [])
  | c :: rest => if c = mark then (some (upTo ends rest).1, (upTo ends rest).2) else (none, cs)

/-- The user in front of the last `@`, if there is one, and the rest. -/
def splitUser (cs : List Char) : List Char × List Char :=
  let rest := (cs.reverse.takeWhile (· ≠ '@')).reverse
  ((cs.take (cs.length - rest.length)).dropLast, rest)

/-- The host and what follows it. A host in brackets goes on to the last of them. -/
def splitHost (cs : List Char) : List Char × List Char :=
  let tail := (cs.reverse.takeWhile (· ≠ ']')).reverse
  if cs.head? = some '[' ∧ tail.length < cs.length then (cs.take (cs.length - tail.length), tail)
  else upTo [':', '@'] cs

/-- The number that a scheme implies. -/
def impliedNumber? (scheme : List Char) : Option Int :=
  if scheme = "ftp".toList then some 21
  else if scheme = "http".toList ∨ scheme = "ws".toList then some 80
  else if scheme = "https".toList ∨ scheme = "wss".toList then some 443
  else none

/-- The number after a host, which may begin with a colon; `some none` if there is none to name. -/
def number? (scheme cs : List Char) : Option (Option Int) :=
  let digits := if cs.head? = some ':' then cs.drop 1 else cs
  if digits.isEmpty then some none
  else
    (Number.readInt? (.ofList digits)).map fun n =>
      if some n = impliedNumber? scheme then none else some n

/-! ## Paths -/

/-- The segments of a path with single dots left out and double dots removed together with the
segment before them; the empty segment that starts an absolute path stays. -/
def resolveDots : (done : List (List Char)) → List (List Char) → List (List Char)
  | done, [] => done.reverse
  | done, s :: ss =>
    if s = ['.'] then resolveDots done ss
    else if s = ['.', '.'] then resolveDots (if done = [[]] then done else done.drop 1) ss
    else resolveDots (s :: done) ss

/-- A path without dot segments. -/
def withoutDots (path : List Char) : List Char :=
  joinPieces '/' (resolveDots [] (piecesBetween '/' path))

/-- Does the address have an authority? -/
def hasAuthority (u : Url) : Bool := !u.user.isEmpty || !u.host.isEmpty || u.number.isSome

/-- May the address have such a path? After an authority it starts with a slash, and without scheme
and authority it starts with neither two slashes nor a colon. -/
def admits (u : Url) (path : List Char) : Bool :=
  if u.hasAuthority then path.head?.all (· = '/')
  else !u.scheme.isEmpty || (path.take 2 ≠ ['/', '/'] && path.head? ≠ some ':')

/-- The address with another path and query. -/
def withPath? (u : Url) (path : List Char) (query : Option (List Char)) : Option Url :=
  if !u.admits path || maxLength < path.length || query.any (maxLength < ·.length) then none
  else
    let path := if u.hasAuthority || !u.scheme.isEmpty then withoutDots path else path
    some { u with path := percentKept pathMarks path, query := query.map (percentKept queryMarks) }

/-! ## Reading and writing -/

/-- The address of a text. -/
def parse? (cs : List Char) : Option Url :=
  if maxLength < cs.length || cs.any isControl then none
  else
    let (scheme, rest) := splitScheme cs
    let (authority, rest) := splitAuthority rest
    let (path, rest) := upTo ['?', '#'] rest
    let (query, rest) := splitMarked '?' ['#'] rest
    let (fragment, _) := splitMarked '#' [] rest
    let (user, rest) := splitUser authority
    let (host, rest) := splitHost rest
    match Host.encode? host, number? (scheme.map asciiLowerChar) rest with
    | some host, some number =>
      let u : Url :=
        { scheme := scheme.map asciiLowerChar
          user := percentKept userMarks user
          host := host
          number := number
          path := []
          query := none
          fragment := fragment.map (percentKept fragmentMarks) }
      u.withPath? path query
    | _, _ => none

/-- A part after its mark. -/
def marked (mark : Char) : Option (List Char) → List Char
  | some cs => mark :: cs
  | none => []

/-- The text of the authority. -/
def authority (u : Url) : List Char :=
  (if u.user.isEmpty then [] else u.user ++ ['@']) ++
    (if u.host.contains ':' then '[' :: u.host ++ [']'] else u.host) ++
    marked ':' (u.number.map fun n => (toString n).toList)

/-- The text of an address. -/
def text (u : Url) : List Char :=
  (if u.scheme.isEmpty then [] else u.scheme ++ [':']) ++
    (if u.authority.isEmpty then [] else '/' :: '/' :: u.authority) ++ u.path ++
    marked '?' u.query ++ marked '#' u.fragment

/-- The path and the query, which is what a server is asked for. -/
def target (u : Url) : List Char :=
  (if u.path.isEmpty then ['/'] else u.path) ++ marked '?' u.query

/-- The address with another target. -/
def withTarget? (u : Url) (target : List Char) : Option Url :=
  let (path, rest) := upTo ['?'] target
  u.withPath? path (splitMarked '?' [] rest).1

/-- The address with a slash at the end of its target. -/
def asDirectory? (u : Url) : Option Url :=
  if u.target.getLast? = some '/' then some u else u.withTarget? (u.target ++ ['/'])

/-- The address of something below another one. Parameters take the place of a query. -/
def extend? (base : Url) (reference : List Char) (parameters : Option (List Char)) : Option Url :=
  match parse? reference with
  | none => none
  | some r =>
    match base.withTarget? (base.target ++ r.target.dropWhile (· == '/')), parameters with
    | none, _ => none
    | some u, none => some u
    | some u, some parameters => u.withPath? u.path (some parameters)

/-! ## Schemes and users -/

/-- Does a scheme or something like one come first in the text, so that the address says how to get
there? -/
def saysHow (u : Url) : Bool :=
  match upTo ['/', ':'] u.text with
  | (_ :: _, ':' :: _) => true
  | _ => false

/-- The value of a header that shows the name and the password of the user, if any are given. -/
def credentials (u : Url) : Option String :=
  let (name, rest) := upTo [':'] u.user
  let name := encode (decode (unpercent name))
  let password := encode (decode (unpercent (rest.drop 1)))
  if name.isEmpty && password.isEmpty then none
  else some ("Basic " ++ String.ofList (Base64.encode (name ++ 0x3A :: password)))

end Url

end SourceAudit.Remote
