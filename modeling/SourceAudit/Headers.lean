import SourceAudit.Text.Case

/-!
# SourceAudit.Headers

Headers of requests and responses: named values, with names compared in lower case.
-/

namespace SourceAudit

/-- Headers in their order. -/
structure Headers where
  fields : List (String × String)
deriving DecidableEq, Repr

namespace Headers

/-- No headers. -/
def empty : Headers := ⟨[]⟩

/-- The values of a header, in order; `name` is in lower case. -/
def values (h : Headers) (name : String) : List String :=
  (h.fields.filter fun f => Text.asciiLower f.1 = name).map (·.2)

/-- The first value of a header. -/
def first? (h : Headers) (name : String) : Option String := (h.values name).head?

/-- The value of a header; several are joined with commas. -/
def get? (h : Headers) (name : String) : Option String :=
  match h.values name with
  | [] => none
  | vs => some (", ".intercalate vs)

end Headers

end SourceAudit
