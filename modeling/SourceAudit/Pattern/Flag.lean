import SourceAudit.Pattern.Sequence

/-!
# SourceAudit.Pattern.Flag

The flags that change what the parts of a pattern mean. Some hold for the whole pattern wherever
they are set; the others hold from the place where they are set to the end of the group around it.
-/

namespace SourceAudit.Pattern

/-- A flag. -/
inductive Flag
  /-- Classes and word edges are those of ASCII. -/
  | ascii
  /-- The match with the fewest errors is wanted. -/
  | fewestErrors
  /-- A match with errors is improved. -/
  | enhance
  /-- Case is disregarded by full folding. -/
  | fullCase
  | ignoreCase
  /-- Classes are those of the locale. -/
  | locale
  /-- `^` and `$` match at line ends. -/
  | multiline
  /-- The longest match is wanted. -/
  | longest
  /-- The pattern is searched backward. -/
  | backward
  /-- `.` matches line ends. -/
  | dotAll
  /-- Classes and word edges are those of all scripts. -/
  | unicode
  /-- Sets are simple. -/
  | plainSets
  /-- Sets may hold sets and operations on them. -/
  | nestedSets
  /-- Words and lines are those of running text. -/
  | words
  /-- Blanks and comments between the parts are ignored. -/
  | verbose
deriving DecidableEq, Repr

/-- Some flags. -/
abbrev Flags := List Flag

namespace Flags

/-- Is the flag set? -/
def has (f : Flags) (x : Flag) : Bool := f.contains x

/-- The flags of both. -/
def union (f g : Flags) : Flags := f ++ g.filter (!f.contains ·)

/-- The flags of the first that are not in the second. -/
def without (f g : Flags) : Flags := f.filter (!g.contains ·)

/-- The flags of both, where both have them. -/
def inter (f g : Flags) : Flags := f.filter g.contains

/-- The flags that hold for the whole pattern. -/
def forWhole : Flags := [.fewestErrors, .enhance, .longest, .backward, .plainSets, .nestedSets]

/-- The flags that say what classes contain. -/
def scopes : Flags := [.ascii, .locale, .unicode]

/-- How the case of letters counts. -/
def caseMode (f : Flags) : CaseMode :=
  if !f.has .ignoreCase then .exact
  else if f.has .fullCase && !f.has .ascii then .full
  else .simple

/-- How a whole pattern with these flags takes the case of characters. -/
def casing (f : Flags) : Casing :=
  let ascii := f.has .ascii || f.has .locale
  ⟨ascii, !ascii && f.has .ignoreCase && f.has .fullCase⟩

/-- The flags with those that others entail. -/
def complete (f : Flags) : Flags := if f.has .nestedSets then f.union [.fullCase] else f

end Flags

/-- The flag of a letter; the two flags for sets have longer names. -/
def Flag.ofLetter? : Char → Option Flag
  | 'a' => some .ascii
  | 'b' => some .fewestErrors
  | 'e' => some .enhance
  | 'f' => some .fullCase
  | 'i' => some .ignoreCase
  | 'L' => some .locale
  | 'm' => some .multiline
  | 'p' => some .longest
  | 'r' => some .backward
  | 's' => some .dotAll
  | 'u' => some .unicode
  | 'w' => some .words
  | 'x' => some .verbose
  | _ => none

end SourceAudit.Pattern
