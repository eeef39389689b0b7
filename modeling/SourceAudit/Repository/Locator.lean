import SourceAudit.Repository
import SourceAudit.Text.Pieces
import SourceAudit.Text.Word

/-!
# SourceAudit.Repository.Locator

Locators of repositories. A repository on GitHub is named by the address of its page, with or
without the scheme, possibly with a `.git` suffix, trailing slashes or a `/tree/<ref>` tail, or by
its SSH address `git@github.com:owner/name`. `resolve` reads the repository that a text names, and
refuses everything else: other hosts, anything around the host, escapes in the path, and names that
GitHub does not admit.
-/

namespace SourceAudit.Repository

open Text

/-- Longer texts are refused. -/
def maxLocatorLength : Nat := 500

/-- A letter, digit or hyphen. -/
def isOwnerChar (c : Char) : Bool := isAsciiLetter c || isAsciiDigit c || c == '-'

/-- A character of a repository's name. -/
def isNameChar (c : Char) : Bool := isOwnerChar c || c == '.' || c == '_'

/-- A character of a branch, tag or commit. -/
def isRefChar (c : Char) : Bool := isNameChar c || c == '+' || c == '@'

/-- Up to 39 letters, digits and hyphens, of which the first is no hyphen. -/
def isOwner (cs : List Char) : Bool :=
  cs.length ≤ 39 && cs.all isOwnerChar && cs.head?.any (· ≠ '-')

/-- Up to 100 characters of a name that are not a dot segment. -/
def isName (cs : List Char) : Bool :=
  cs.length ≤ 100 && cs.all isNameChar && !cs.isEmpty && cs ≠ ['.'] && cs ≠ ['.', '.']

/-- Are there two dots in a row? -/
def hasDoubleDot : List Char → Bool
  | '.' :: '.' :: _ => true
  | _ :: cs => hasDoubleDot cs
  | [] => false

/-- The ending of names that a version cannot have. -/
def lockSuffix : List Char := ['.', 'l', 'o', 'c', 'k']

/-- One segment of a branch, tag or commit. -/
def isRefSegment (cs : List Char) : Bool :=
  cs.length ≤ 255 && cs.all isRefChar && cs.head?.any (· ≠ '.') && !hasDoubleDot cs &&
    !lockSuffix.isSuffixOf cs

/-- The ending that a clone address has. -/
def gitSuffix : List Char := ['.', 'g', 'i', 't']

/-- A name without the ending of a clone address, in any case. -/
def withoutGit (name : List Char) : List Char :=
  if gitSuffix.isSuffixOf (name.map asciiLowerChar) then name.take (name.length - 4) else name

/-- The repository of an owner and a name, in lower case, if they are valid. -/
def build? (owner name : List Char) (ref : Option String) : Option Repository :=
  let name := withoutGit name
  if isOwner owner && isName name then
    some ⟨.ofList (owner.map asciiLowerChar), .ofList (name.map asciiLowerChar), ref⟩
  else none

/-- Is `c` the letter `l` of an SSH address? Case is ignored, and an `i` may have its dot or not
in either case. -/
def isSshLetter (l c : Char) : Bool :=
  asciiLowerChar c == l || (l == 'i' && (c.toNat == 0x130 || c.toNat == 0x131))

/-- How an SSH address starts. -/
def sshStart : List Char := "git@github.com:".toList

/-- What follows the start of an SSH address. -/
def afterSshStart? : (start cs : List Char) → Option (List Char)
  | [], cs => some cs
  | l :: start, c :: cs => if isSshLetter l c then afterSshStart? start cs else none
  | _ :: _, [] => none

/-- Owner and name of an SSH address. -/
def ssh? (cs : List Char) : Option (List Char × List Char) :=
  match (afterSshStart? sshStart cs).map (piecesBetween '/') with
  | some [owner, name] => if owner.isEmpty || name.isEmpty then none else some (owner, name)
  | some [owner, name, []] => if owner.isEmpty || name.isEmpty then none else some (owner, name)
  | _ => none

/-- Does the text contain `://`? -/
def hasSchemeMark : List Char → Bool
  | ':' :: '/' :: '/' :: _ => true
  | _ :: cs => hasSchemeMark cs
  | [] => false

/-- What follows the scheme and the two slashes of a web address, in any case; control characters
before it do not count. -/
def afterScheme? (cs : List Char) : Option (List Char) :=
  let cs := cs.dropWhile fun c => c.toNat ≤ 0x20
  let scheme := cs.takeWhile (· ≠ ':')
  let lowered := scheme.map asciiLowerChar
  if lowered = "http".toList ∨ lowered = "https".toList then
    match cs.drop scheme.length with
    | ':' :: '/' :: '/' :: rest => some rest
    | _ => none
  else none

/-- The hosts on which repositories have their pages. -/
def hosts : List (List Char) := ["github.com".toList, "www.github.com".toList]

/-- Is the authority of an address one of the hosts? Before it there may be an `@` with an empty
user, and after it a colon with nothing behind. -/
def isHost (authority : List Char) : Bool :=
  let reversed := authority.reverse
  let hostPart := (reversed.takeWhile (· ≠ '@')).reverse
  let user := authority.take (authority.length - hostPart.length)
  let host := hostPart.takeWhile (· ≠ ':')
  let tail := hostPart.drop host.length
  (user = [] || user = ['@'] || user = [':', '@']) && (tail = [] || tail = [':']) &&
    hosts.contains (host.map asciiLowerChar)

/-- Does the character end the authority of an address? -/
def endsAuthority (c : Char) : Bool := c == '/' || c == '?' || c == '#'

/-- The segments of a path, without those that slashes at its ends leave empty. -/
def segments (path : List Char) : List (List Char) :=
  let all := piecesBetween '/' path
  let inner := if all.head? = some [] then all.drop 1 else all
  (inner.reverse.dropWhile List.isEmpty).reverse

/-- The repository at a path of the host. -/
def atPath? (path : List Char) : Option Repository :=
  let parts := segments path
  if path.contains '%' || parts.any List.isEmpty then none
  else
    match parts with
    | [owner, name] => build? owner name none
    | owner :: name :: tree :: ref =>
      if tree = "tree".toList ∧ ref ≠ [] ∧ ref.all isRefSegment then
        build? owner name (some (.ofList (joinPieces '/' ref)))
      else none
    | _ => none

/-- The repository of an address without blanks. -/
def ofAddress? (cs : List Char) : Option Repository :=
  let address : Option (List Char) :=
    if hasSchemeMark cs then some cs
    else if cs.head?.any endsAuthority then none
    else some ("https://".toList ++ cs)
  (address.bind afterScheme?).bind fun rest =>
    let authority := rest.takeWhile fun c => !endsAuthority c
    if isHost authority then
      atPath? ((rest.drop authority.length).takeWhile fun c => c ≠ '?' && c ≠ '#')
    else none

/-- The repository that a text names. -/
def resolveText (s : String) : Option Repository :=
  let cs := strip s.toList
  if cs.isEmpty || maxLocatorLength < cs.length || cs.any isBlank || cs.contains '\\' then none
  else
    match ssh? cs with
    | some (owner, name) => build? owner name none
    | none => ofAddress? cs

/-- The repository that a value names; only a text can name one. -/
def resolve (j : Json) : Option Repository := j.text?.bind resolveText

end SourceAudit.Repository
