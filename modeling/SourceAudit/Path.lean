import SourceAudit.Text.Pieces

/-!
# SourceAudit.Path

Paths within a repository. A path is a sequence of components between separators, of which empty
ones and single dots do not count; the last one is its name, and the others are its directories.
-/

namespace SourceAudit.Path

open Text

/-- The components of a path. -/
def components (path : String) : List String :=
  ((piecesBetween '/' path.toList).filter fun part => part ≠ [] && part ≠ ['.']).map String.ofList

/-- The last component, or the empty name. -/
def name (path : String) : String := ((components path).getLast?).getD ""

/-- The components before the last. -/
def directories (path : String) : List String := (components path).dropLast

/-- The last dot of a name and what follows it, unless the dot starts or ends the name. -/
def suffix (path : String) : String :=
  let reversed := (name path).toList.reverse
  let tail := reversed.takeWhile (· ≠ '.')
  let before := reversed.drop (tail.length + 1)
  if tail.isEmpty || before.isEmpty then "" else String.ofList ('.' :: tail.reverse)

end SourceAudit.Path
