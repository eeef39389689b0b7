/-!
# SourceAudit.Glob

Shell-style patterns for paths: `*` stands for any characters, the separator `/` among them, `?` for
one, and `[…]` for one of a set, or with `[!…]` for one outside it.
-/

namespace SourceAudit

namespace Glob

/-- A set of characters, given by ranges with their ends, or the complement of one. -/
structure Members where
  complement : Bool
  ranges : List (Char × Char)
deriving DecidableEq, Repr

/-- Membership in a set. -/
def Members.contains (m : Members) (c : Char) : Bool :=
  (m.ranges.any fun (first, last) => first ≤ c && c ≤ last) != m.complement

/-- Every character. -/
def Members.everything : Members := ⟨true, []⟩

/-- The set of one character. -/
def Members.only (c : Char) : Members := ⟨false, [(c, c)]⟩

/-- One part of a glob. -/
inductive Piece
  | star
  | one (m : Members)
deriving DecidableEq, Repr

/-- The inside of a set after its opening bracket, and what follows its closing one. A bracket that
would close the set at once belongs to it. -/
def splitSet? (cs : List Char) : Option (List Char × List Char) :=
  let (lead, rest) : List Char × List Char :=
    match cs with
    | '!' :: ']' :: rest => (['!', ']'], rest)
    | '!' :: rest => (['!'], rest)
    | ']' :: rest => ([']'], rest)
    | rest => ([], rest)
  let body := rest.takeWhile (· ≠ ']')
  match rest.drop body.length with
  | ']' :: tail => some (lead ++ body, tail)
  | _ => none

/-- The stretches between the hyphens that form ranges, where the first `skip` characters hold none.
A hyphen that ends the set is its own member. Each stretch takes a character at least. -/
def stretches (fuel skip : Nat) (cs : List Char) : List (List Char) :=
  match fuel with
  | 0 => [cs]
  | fuel + 1 =>
    let head := cs.take skip ++ (cs.drop skip).takeWhile (· ≠ '-')
    match cs.drop head.length with
    | [] => [cs]
    | [_] => [cs]
    | _ :: rest => head :: stretches fuel 2 rest

/-- Joins neighbouring stretches whose range would run downward, which leaves out its two ends. -/
def dropEmptyRanges : List (List Char) → List (List Char)
  | [] => []
  | s :: ss =>
    match dropEmptyRanges ss with
    | [] => [s]
    | t :: ts =>
      match s.getLast?, t.head? with
      | some a, some b => if b < a then (s.dropLast ++ t.tail) :: ts else s :: t :: ts
      | _, _ => s :: t :: ts

/-- The characters of the stretches in order, with `none` for the hyphen between two of them. -/
def marks : List (List Char) → List (Option Char)
  | [] => []
  | [s] => s.map some
  | s :: ss => s.map some ++ none :: marks ss

/-- The ranges of the members: those of one character, and wider ones where a hyphen has a
character on both sides. -/
def rangesOf : List (Option Char) → List (Char × Char)
  | [] => []
  | some a :: none :: some b :: rest => (a, b) :: rangesOf rest
  | some a :: rest => (a, a) :: rangesOf rest
  | none :: rest => ('-', '-') :: rangesOf rest

/-- The set written inside brackets. -/
def membersOf (inside : List Char) : Members :=
  let skip := if inside.head? = some '!' then 2 else 1
  match marks (dropEmptyRanges (stretches inside.length skip inside)) with
  | some '!' :: rest => ⟨true, rangesOf rest⟩
  | all => ⟨false, rangesOf all⟩

/-- The parts of a written glob. Each takes a character at least. -/
def piecesOf : (fuel : Nat) → List Char → List Piece
  | 0, _ => []
  | _, [] => []
  | fuel + 1, c :: cs =>
    if c = '*' then .star :: piecesOf fuel cs
    else if c = '?' then .one .everything :: piecesOf fuel cs
    else if c = '[' then
      match splitSet? cs with
      | some (inside, rest) => .one (membersOf inside) :: piecesOf fuel rest
      | none => .one (.only '[') :: piecesOf fuel cs
    else .one (.only c) :: piecesOf fuel cs

/-- The parts of a written glob. -/
def pieces (glob : String) : List Piece := piecesOf glob.length glob.toList

/-- Does some ending of the text satisfy `p`? -/
def anySuffix (p : List Char → Bool) : List Char → Bool
  | [] => p []
  | c :: cs => p (c :: cs) || anySuffix p cs

/-- Do the parts match the whole text? -/
def matchesAll : List Piece → List Char → Bool
  | [], cs => cs.isEmpty
  | .star :: ps, cs => anySuffix (matchesAll ps) cs
  | .one m :: ps, cs =>
    match cs with
    | [] => false
    | c :: cs => m.contains c && matchesAll ps cs

end Glob

/-- Does a glob match the whole text? -/
def globMatches (glob text : String) : Bool :=
  Glob.matchesAll (Glob.pieces glob) text.toList

end SourceAudit
