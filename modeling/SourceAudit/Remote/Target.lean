import SourceAudit.Remote.Url
import SourceAudit.Repository

/-!
# SourceAudit.Remote.Target

Addresses of the requests to GitHub. A `Query` says what is asked for, and `Query.address?` is its
address under that of the service.
-/

namespace SourceAudit.Remote

open Text

/-- What a request asks for. -/
inductive Query
  /-- The description of a repository. -/
  | lookup
  /-- The listing of a version or a directory, with everything below it if `recursive`. -/
  | tree (version : String) (recursive : Bool)
  /-- The contents of a file. -/
  | file (path : String) (ref : Option String)
deriving DecidableEq, Repr

namespace Query

/-- What the errors of a request call it. -/
def what : Query → String
  | lookup => "Repository lookup"
  | tree .. => "Tree listing"
  | file path _ => "File " ++ path

/-- The form in which the answer is wanted. -/
def accept : Query → String
  | file .. => "application/vnd.github.raw"
  | _ => "application/vnd.github+json"

/-- The path of a query within its repository. -/
def resource : Query → List Char
  | lookup => []
  | tree version _ => "/git/trees/".toList ++ percentPath version.toList
  | file path _ => "/contents/".toList ++ percentPath path.toList

/-- The parameters of a query. -/
def parameters : Query → Option (List Char)
  | tree _ true => some "recursive=1".toList
  | file _ (some ref) => if ref = "" then none else some ("ref=".toList ++ percentForm ref.toList)
  | _ => none

/-- The path of a query below the address of the service. Owner and name stand in it as they are. -/
def path (q : Query) (repo : Repository) : List Char :=
  "/repos/".toList ++ repo.owner.toList ++ '/' :: repo.name.toList ++ q.resource

/-- The address of a query. -/
def address? (q : Query) (base : Url) (repo : Repository) : Option Url :=
  base.extend? (q.path repo) q.parameters

end Query

/-- The address of the service that a text gives; slashes at its end do not count. -/
def serviceAddress? (text : String) : Option Url :=
  (Url.parse? (dropEndWhile (· == '/') text.toList)).bind Url.asDirectory?

end SourceAudit.Remote
