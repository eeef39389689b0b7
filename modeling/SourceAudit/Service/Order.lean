import SourceAudit.Failure
import SourceAudit.Repository.Locator
import SourceAudit.Settings

/-!
# SourceAudit.Service.Order

Orders of scans. The body of a request names a repository, and possibly a token; `Order.ofJson`
examines both and gives the order or the first fault.
-/

namespace SourceAudit.Service

open Text

/-- A scan that is asked for. -/
structure Order where
  repository : Repository
  /-- The token that the caller brings. -/
  token : Option String
deriving DecidableEq, Repr

/-- The texts in the body of a request. -/
structure Form where
  url : Option String
  token : Option String
deriving DecidableEq, Repr

namespace Form

open Input in
/-- The texts that an object holds. -/
def ofJson : Json → Checked Form
  | .obj members =>
    ((⟨"repoUrl", "repo_url", optionalText⟩ : Slot (Option String)).orElse none members).map Form.mk
      |>.ap ((⟨"githubToken", "github_token", optionalText⟩ : Slot (Option String)).orElse none
        members)
  | _ => .fail .notObject

/-- The trimmed address, empty if there is none. -/
def locator (f : Form) : String := trimmed (f.url.getD "")

/-- The trimmed token, if anything is left of it. -/
def ownToken (f : Form) : Option String := (f.token.map trimmed).filter (· ≠ "")

end Form

namespace Order

/-- Is a token short enough and free of blanks? -/
def isToken (limit : Int) (token : String) : Bool :=
  token.length ≤ limit && !token.toList.any isBlank

/-- The order of a form. The address is examined first for its length, then the token, and then the
address for what it says. -/
def ofForm (s : Settings) (f : Form) : Except InputFault Order :=
  if f.locator = "" then .error .missingUrl
  else if s.maxUrlLength < f.locator.length then .error (.longUrl s.maxUrlLength)
  else if !f.ownToken.all (isToken s.maxTokenLength) then .error .malformedToken
  else
    match Repository.resolveText f.locator with
    | none => .error .notRepository
    | some repository => .ok ⟨repository, f.ownToken⟩

/-- The order that a JSON value describes. -/
def ofJson (s : Settings) (j : Json) : Except InputFault Order :=
  match Form.ofJson j with
  | .bad _ => .error .unreadableBody
  | .good f => ofForm s f

end Order

end SourceAudit.Service
