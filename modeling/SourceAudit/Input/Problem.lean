/-!
# SourceAudit.Input.Problem

What can be wrong with a value from outside: the place of the bad value within the input, and the
cause.
-/

namespace SourceAudit.Input

/-- One step into a value. -/
inductive Step
  | key (name : String)
  | index (n : Nat)
deriving DecidableEq, Repr

/-- Why a value is refused. -/
inductive Cause
  | missing
  | unknownField
  | notText
  /-- A text that is no sequence of characters. -/
  | brokenText
  | emptyText
  | notOneOf
  | notList
  | notMap
  | notObject
  | notBool
  | unreadableBool
  | notInt
  | unreadableInt
  | fractionalInt
  /-- An integer of more digits than are read. -/
  | longInt
  /-- A number that is not finite in the place of an integer. -/
  | notFinite
  | notNumber
  | unreadableNumber
  | belowLeast
  | invalidPattern
  /-- A pattern that cannot be used for another reason. -/
  | refusedPattern (reason : String)
  | nestedRepetition
deriving DecidableEq, Repr

/-- A refused value. -/
structure Problem where
  /-- The steps from the whole input to the value. -/
  place : List Step
  cause : Cause
deriving DecidableEq, Repr

namespace Problem

/-- The same problem seen from one step further out. -/
def inside (step : Step) (p : Problem) : Problem := { p with place := step :: p.place }

end Problem

end SourceAudit.Input
