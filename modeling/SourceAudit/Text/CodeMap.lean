/-!
# SourceAudit.Text.CodeMap

Maps from all code points to small numbers, held as runs of equal value. The written form of such a
map is a text of letters and digits: for each run its length and its value, every number in base 31
with the digits `0`–`9`, `A`–`U` for its last place and `V`–`Z`, `a`–`z` for the places before.
-/

namespace SourceAudit.Text

/-- A map from code points: run `i` starts at `starts[i]`, ends before the next one, and has the
value `values[i]`. The values at the ASCII characters are also held one by one. -/
structure CodeMap where
  starts : Array Nat
  values : Array Nat
  ascii : Array Nat
deriving Inhabited

namespace CodeMap

/-- The rank of a character among the digits, the capitals and the small letters. -/
def rank (c : Char) : Nat :=
  if c ≤ '9' then c.toNat - 0x30
  else if c ≤ 'Z' then c.toNat - 0x41 + 10
  else c.toNat - 0x61 + 36

/-- The numbers of a written map; `pending` holds the places read of the number at hand. -/
def numbers (pending : Nat) : List Char → List Nat
  | [] => []
  | c :: cs =>
    if rank c < 31 then (pending * 31 + rank c) :: numbers 0 cs
    else numbers (pending * 31 + (rank c - 31)) cs

/-- Adds the runs with the given lengths and values, the first of which starts at `start`. -/
def addRuns (m : CodeMap) (start : Nat) : List Nat → CodeMap
  | length :: value :: rest =>
    let ascii := m.ascii ++ Array.replicate (min length (128 - start)) value
    addRuns ⟨m.starts.push start, m.values.push value, ascii⟩ (start + length) rest
  | _ => m

/-- The map with the given written form, which may be in several pieces. -/
def ofTexts (pieces : List String) : CodeMap :=
  addRuns ⟨#[], #[], #[]⟩ 0 (numbers 0 (pieces.flatMap String.toList))

/-- The index of the last run in `[lo, hi)` that starts at `code` or before, given that the run `lo`
does, halving the interval at most `steps` times. -/
def runOf (m : CodeMap) (code : Nat) : (steps lo hi : Nat) → Nat
  | 0, lo, _ => lo
  | steps + 1, lo, hi =>
    if lo + 1 < hi then
      let mid := (lo + hi) / 2
      if m.starts.getD mid 0 ≤ code then m.runOf code steps mid hi else m.runOf code steps lo mid
    else lo

/-- The value at a code point. An interval of indices is halved to a single one in as many steps as
its length has binary digits. -/
def get (m : CodeMap) (code : Nat) : Nat :=
  if code < 128 then m.ascii.getD code 0
  else m.values.getD (m.runOf code 32 0 m.starts.size) 0

end CodeMap

end SourceAudit.Text
