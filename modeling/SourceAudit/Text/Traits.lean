import SourceAudit.Text.Traits.Case
import SourceAudit.Text.Traits.Category
import SourceAudit.Text.Traits.Kind
import SourceAudit.Text.Traits.Layout
import SourceAudit.Text.Traits.Segment

/-!
# SourceAudit.Text.Traits

All traits of characters, and those that are asked for by name in this library.
-/

namespace SourceAudit.Text

/-- All traits. -/
def allTraits : Array Trait :=
  (categoryTraits ++ scriptTraits ++ blockTraits ++ clusterTraits ++ wordTraits ++ lineTraits ++
    directionTraits ++ combinationTraits ++ numericTraits ++ caseTraits ++ identifierTraits ++
    classTraits ++ otherTraits).toArray

/-- The index of the trait with a name. -/
def traitNamed? (name : String) : Option Nat := allTraits.findIdx? (·.isNamed name)

/-- The value that the trait with a given index has at a code point. -/
def traitValue (index code : Nat) : Nat :=
  match allTraits[index]? with
  | some t => t.get code
  | none => 0

/-- The trait with a name. -/
def traitCalled (name : String) : Trait :=
  (allTraits.find? (·.isNamed name)).getD (.flag name [])

/-- The values of the trait with a name that have one of the given names. -/
def traitValues (trait : Trait) (names : List String) : List Nat :=
  names.flatMap trait.valuesNamed

end SourceAudit.Text
