import SourceAudit.Input.Checked

/-!
# SourceAudit.Repository

References to repositories on GitHub: an owner, a name, and possibly the branch, tag or commit that
is meant.
-/

namespace SourceAudit

/-- A repository, and the version of it that is meant if one is named. -/
structure Repository where
  owner : String
  name : String
  ref : Option String
deriving DecidableEq, Repr

namespace Repository

/-- Owner and name. -/
def fullName (r : Repository) : String := r.owner ++ "/" ++ r.name

/-- The address of the repository's page. -/
def url (r : Repository) : String := "https://github.com/" ++ r.fullName

/-- The reference as JSON. -/
def json (r : Repository) : Json :=
  .obj [("owner", .str r.owner), ("name", .str r.name), ("ref", Json.ofText? r.ref)]

open Input in
/-- The reference that an object describes. -/
def ofJson : Json → Checked Repository
  | .obj members =>
    ((Slot.named "owner" text).required members).map Repository.mk
      |>.ap ((Slot.named "name" text).required members)
      |>.ap ((Slot.named "ref" optionalText).orElse none members)
  | _ => .fail .notObject

end Repository

end SourceAudit
