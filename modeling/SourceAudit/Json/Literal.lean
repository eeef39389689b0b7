import SourceAudit.Json.Value
import SourceAudit.Number.Shortest
import SourceAudit.Text.Quoted

/-!
# SourceAudit.Json.Literal

Values as literals: `None`, `True` and `False`, texts in quotes, lists in brackets and objects in
braces. A value that is a text stands for itself when it is written alone.
-/

namespace SourceAudit.Json

/-- A text in quotes. -/
def quotedText (s : String) : String := .ofList (Text.quoted (s.toList.map Char.toNat))

mutual

/-- The literal of a value. -/
def literal : Json → String
  | .null => "None"
  | .bool true => "True"
  | .bool false => "False"
  | .int n => toString n
  | .float x => x.text
  | .str s => quotedText s
  | .brokenStr codes => .ofList (Text.quoted codes)
  | .arr items => "[" ++ ", ".intercalate (literalItems items) ++ "]"
  | .obj members => "\x7b" ++ ", ".intercalate (literalMembers members) ++ "\x7d"

/-- The literals of the items of a list. -/
def literalItems : List Json → List String
  | [] => []
  | item :: items => literal item :: literalItems items

/-- The literals of the members of an object. -/
def literalMembers : List (String × Json) → List String
  | [] => []
  | (key, v) :: members => (quotedText key ++ ": " ++ literal v) :: literalMembers members

end

/-- A value written alone. -/
def written (j : Json) : String := j.text?.getD j.literal

end SourceAudit.Json
