import SourceAudit.Text.CodeMap

/-!
# SourceAudit.Text.Trait

Traits of characters: the properties by which a character standard classifies them. A trait gives
every code point one of its values, and both the trait and its values have names, written in
capitals without blanks, hyphens and underscores. A yes-or-no trait has the values 0 and 1.
-/

namespace SourceAudit.Text

/-- A trait of characters. -/
structure Trait where
  /-- The names of the trait. -/
  names : List String
  /-- The names of its values, in the order of the values. -/
  valueNames : List (List String)
  /-- The value of each code point. -/
  map : Thunk CodeMap

namespace Trait

/-- The pieces of a text between the occurrences of a character; `read` holds what is read of the
piece at hand, last first. -/
def pieces (separator : Char) (read : List Char) : List Char → List (List Char)
  | [] => [read.reverse]
  | c :: cs =>
    if c = separator then read.reverse :: pieces separator [] cs
    else pieces separator (c :: read) cs

/-- The names in a text, with blanks between them. -/
def namesIn (text : List Char) : List String := (pieces ' ' [] text).map String.ofList

/-- A trait from its names, the names of its values (blanks between the names of a value, semicolons
between values) and its written map; the last two may be in several pieces. -/
def ofTexts (names : String) (valueNames map : List String) : Trait :=
  ⟨namesIn names.toList, (pieces ';' [] (valueNames.flatMap String.toList)).map namesIn,
    Thunk.mk fun _ => .ofTexts map⟩

/-- A yes-or-no trait. -/
def flag (names : String) (map : List String) : Trait :=
  ofTexts names ["NO N FALSE F;YES Y TRUE T"] map

/-- Does a name belong to the trait? -/
def isNamed (t : Trait) (name : String) : Bool := t.names.contains name

/-- Has the trait the values yes and no? -/
def isFlag (t : Trait) : Bool := t.valueNames.any (·.contains "YES")

/-- The values that have a name; where a value stands for several at once, there may be many. -/
def valuesNamed (t : Trait) (name : String) : List Nat :=
  (t.valueNames.zipIdx.filter (·.1.contains name)).map (·.2)

/-- The value of a code point. -/
def get (t : Trait) (code : Nat) : Nat := t.map.get.get code

end Trait

end SourceAudit.Text
