import SourceAudit.Text.CaseRuns
import SourceAudit.Text.SigmaRuns

/-!
# SourceAudit.Text.Case

Lower case. `lower` is the full lower-case map of a text: one character may become two (the dotted
capital I), and the Greek capital sigma has another form at the end of a word.
-/

namespace SourceAudit.Text

/-- The image of `code` under the first run that has it. -/
def mapByRuns (runs : List CaseRun) (code : Nat) : Nat :=
  (runs.findSome? (·.image? code)).getD code

/-- Lower case of an ASCII letter; every other character stays. -/
def asciiLowerChar (c : Char) : Char :=
  if 'A' ≤ c ∧ c ≤ 'Z' then Char.ofNat (c.toNat + 32) else c

/-- Lower case of the ASCII letters of a text. -/
def asciiLower (s : String) : String := String.ofList (s.toList.map asciiLowerChar)

/-- Lower case of one character, on its own. -/
def lowerChar (c : Char) : List Char :=
  if c.toNat < 0x80 then [asciiLowerChar c]
  else if c.toNat = 0x130 then ['i', Char.ofNat 0x307]
  else [Char.ofNat (mapByRuns lowerRuns c.toNat)]

/-- Is the nearest character that is not passed over a cased one? -/
def nextIsCased (cs : List Char) : Bool :=
  match cs.dropWhile passedOverSet.contains with
  | [] => false
  | c :: _ => casedSet.contains c

/-- Lower case of `cs`, where `before` is what precedes it, nearest character first. A capital sigma
that ends a word becomes the final sigma. -/
def lowerAfter (before : List Char) : List Char → List Char
  | [] => []
  | c :: cs =>
    let image :=
      if c.toNat = 0x3A3 then
        if nextIsCased before && !nextIsCased cs then [Char.ofNat 0x3C2] else [Char.ofNat 0x3C3]
      else lowerChar c
    image ++ lowerAfter (c :: before) cs

/-- The text in lower case. -/
def lower (s : String) : String := String.ofList (lowerAfter [] s.toList)

end SourceAudit.Text
