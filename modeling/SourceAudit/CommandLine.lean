import SourceAudit.Json.Literal
import SourceAudit.Repository.Locator
import SourceAudit.Scan

/-!
# SourceAudit.CommandLine

One scan from the command line. The request is a JSON object with the address of a repository and
possibly a token; the answer is the report, or a description of what is wrong.
-/

namespace SourceAudit.CommandLine

open Remote

/-- What is wrong with the text of a request. -/
inductive Fault
  /-- The text denotes no JSON value. -/
  | unreadable (cause : Json.ReadError)
  | notObject
  | missingAddress
  | notRepository
deriving DecidableEq, Repr

/-- The wording of a fault. -/
def Fault.message : Fault → String
  | unreadable _ => "Invalid JSON input"
  | notObject => "Input must be a JSON object"
  | missingAddress => "Missing required input 'repo_url' (GitHub URL)"
  | notRepository => InputFault.notRepository.message

/-- What is asked for. -/
structure Request where
  repository : Repository
  token : Option String
deriving DecidableEq, Repr

namespace Request

/-- The value under the first of two keys at which there is one that counts as present. -/
def value? (members : List (String × Json)) (first second : String) : Option Json :=
  match (Json.lookup members first).filter Json.isTruthy with
  | some j => some j
  | none => (Json.lookup members second).filter Json.isTruthy

/-- The request of an object. -/
def ofMembers (members : List (String × Json)) : Except Fault Request :=
  match value? members "repo_url" "repoUrl" with
  | some j =>
    match j.text?.map Repository.resolveText with
    | none => .error .missingAddress
    | some none => .error .notRepository
    | some (some repository) =>
      .ok ⟨repository, (value? members "github_token" "githubToken").map Json.written⟩
  | none => .error .missingAddress

/-- The request of a text. -/
def ofText (text : String) : Except Fault Request :=
  match Json.read text with
  | .error cause => .error (.unreadable cause)
  | .ok (.obj members) => ofMembers members
  | .ok _ => .error .notObject

end Request

/-- What the program prints, and with which code it ends. -/
structure Outcome where
  exitCode : Nat
  printed : Json

namespace Outcome

/-- The outcome of a scan with a report. -/
def success (r : Report) : Outcome := ⟨0, r.json⟩

/-- The outcome of a failure. -/
def failure (message : String) (kind : FailureKind) : Outcome :=
  ⟨1, .obj [("error", .str message), ("kind", .str kind.name)]⟩

/-- The outcome of a failed scan. What goes wrong inside is not told. -/
def ofFailure (f : Failure) : Outcome :=
  failure (if f.kind = .internalError then "" else f.message) f.kind

end Outcome

/-- Answers the text of a request. The outcome comes with the requests made to GitHub. A text with
more than is read, although it may be JSON, has no outcome. -/
def run (scanner : Scanner) (text : String) (world : World) :
    Except Json.ReadError (Outcome × List Remote.Request) :=
  match Request.ofText text with
  | .error (.unreadable .longInteger) => .error .longInteger
  | .error (.unreadable .deepNesting) => .error .deepNesting
  | .error fault => .ok (.failure fault.message .inputError, [])
  | .ok request =>
    match scanner.scan request.repository request.token world with
    | (.ok report, session) => .ok (.success report, session.requests)
    | (.error f, session) => .ok (.ofFailure f, session.requests)

end SourceAudit.CommandLine
