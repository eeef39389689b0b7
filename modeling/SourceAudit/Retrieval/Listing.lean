import SourceAudit.Remote.Client
import SourceAudit.Retrieval.Scannable

/-!
# SourceAudit.Retrieval.Listing

Listing the files of a repository. One request lists everything; if its answer is cut short, the
directories are walked one by one instead, breadth first. Files to be searched become candidates
until there are as many as allowed.
-/

namespace SourceAudit.Retrieval

open Remote Number

/-- What a retrieval may take. -/
structure Limits where
  maxFiles : Int
  /-- The most bytes of one file. -/
  maxFileSize : Int
  /-- The most bytes of all files together, by their listed sizes. -/
  maxTotalBytes : Int
deriving DecidableEq, Repr

/-- A file to be searched, with its listed size. -/
structure Candidate where
  path : String
  size : Int
  /-- Does the path hold half a surrogate pair on its own? Then no address can name the file. -/
  broken : Bool := false
deriving DecidableEq, Repr

/-- The candidates found, and whether there are more. -/
structure Listing where
  candidates : List Candidate
  truncated : Bool
deriving DecidableEq, Repr

namespace Listing

/-- Nothing found. -/
def empty : Listing := ⟨[], false⟩

/-- The size that an entry of a listing states: none counts as 0, and a text is read as a number. -/
def size? (size : Option Json) : Option Int :=
  match size.filter Json.isTruthy with
  | none => some 0
  | some (.int n) => some n
  | some (.bool _) => some 1
  | some (.float x) => x.toRat?.map truncate
  | some (.str s) => readInt? s
  | some _ => none

/-- Does an entry have the given type? -/
def hasType (entry : List (String × Json)) (type : String) : Bool :=
  match Json.lookup entry "type" with
  | some (.str s) => s = type
  | _ => false

/-- Adds an entry with a path if it is a file to be searched. `none` says that the entry is not of
the expected form, and `false` that it is one candidate too many. -/
def consider (limits : Limits) (entry : List (String × Json)) (path : Json) (l : Listing) :
    Option (Bool × Listing) :=
  if !hasType entry "blob" then some (true, l)
  else
    match path.text? with
    | some text =>
      if !isScannable text then some (true, l)
      else if limits.maxFiles ≤ l.candidates.length then some (false, { l with truncated := true })
      else
        (size? (Json.lookup entry "size")).map fun size =>
          (true, { l with candidates := l.candidates ++ [⟨text, size, path.isBroken⟩] })
    | none => none

/-- The path that an entry states. -/
def pathOf (entry : List (String × Json)) : Json := (Json.lookup entry "path").getD (.str "")

/-- Adds the entries of a complete listing, up to the first that is one too many. -/
def addAll (limits : Limits) : List Json → Listing → Option Listing
  | [], l => some l
  | .obj entry :: rest, l =>
    match consider limits entry (pathOf entry) l with
    | none => none
    | some (true, l) => addAll limits rest l
    | some (false, l) => some l
  | _ :: _, _ => none

/-- The entries of a listing. An answer without them, or with an empty value in their place, has
none. -/
def entries? (answer : List (String × Json)) : Option (List Json) :=
  match Json.lookup answer "tree" with
  | none => some []
  | some (.arr entries) => some entries
  | some (.str "") => some []
  | some (.obj []) => some []
  | some _ => none

/-- A directory still to be listed: its version, and how the paths of what it holds start. -/
structure Pending where
  version : Json
  inside : Json

/-- Is a directory of this name left out? -/
def isSkipped : Option Json → Bool
  | some (.str name) => skippedDirectories.contains name
  | _ => false

/-- Adds the entries of one directory, up to the first file that is one too many, and the
directories among them to those still to be listed. -/
def addDirectory (limits : Limits) (inside : Json) :
    List Json → List Pending → Listing → Option (List Pending × Listing)
  | [], pending, l => some (pending, l)
  | .obj entry :: rest, pending, l =>
    match inside.append? (pathOf entry) with
    | some path =>
      if hasType entry "tree" then
        if isSkipped (Json.lookup entry "path") then addDirectory limits inside rest pending l
        else
          match Json.lookup entry "sha" with
          | none => none
          | some version =>
            let below := (path.append? (.str "/")).getD path
            addDirectory limits inside rest (pending ++ [⟨version, below⟩]) l
      else
        match consider limits entry path l with
        | none => none
        | some (true, l) => addDirectory limits inside rest pending l
        | some (false, l) => some (pending, l)
    | none => none
  | _ :: _, _, _ => none

/-- An answer that is not of the expected form. -/
def unusable : Stop := .failed (.unusable .body)

section

variable (c : Client) (repo : Repository) (limits : Limits)

/-- Lists the pending directories in turn; `none` if that never comes to an end. -/
def walk (pending : List Pending) (l : Listing) (s : Session) :
    Option (Except Stop Listing × Session) :=
  match pending with
  | [] => some (.ok l, s)
  | p :: pending =>
    if l.truncated then some (.ok l, s)
    else
      match c.tree repo p.version false s with
      | (.error e, s) => some (.error e, s)
      | (.ok (some (.obj answer)), s) =>
        match (entries? answer).bind (addDirectory limits p.inside · pending l) with
        | some (pending, l) => by apply walk; exact pending; exact l; exact s
        | none => some (.error unusable, s)
      | (.ok _, s) => some (.error unusable, s)
partial_fixpoint

end

/-- The candidates of a version; `none` if the repository is empty. -/
def ofVersion (c : Client) (repo : Repository) (limits : Limits) (version : Json) (s : Session) :
    Except Stop (Option Listing) × Session :=
  match c.tree repo version true s with
  | (.error e, s) => (.error e, s)
  | (.ok none, s) => (.ok none, s)
  | (.ok (some (.obj answer)), s) =>
    if (Json.lookup answer "truncated").any Json.isTruthy then
      match Json.lookup answer "sha" with
      | none => (.error unusable, s)
      | some root =>
        match walk c repo limits [⟨root, .str ""⟩] .empty s with
        | some (listing, s) => (listing.map some, s)
        -- Only the end of the time for the scan ends a walk without an end.
        | none => (.error .deadline, s)
    else
      match (entries? answer).bind fun entries => addAll limits entries .empty with
      | some l => (.ok (some l), s)
      | none => (.error unusable, s)
  | (.ok _, s) => (.error unusable, s)

end Listing

end SourceAudit.Retrieval
