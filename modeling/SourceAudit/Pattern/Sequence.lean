import SourceAudit.Pattern.Node

/-!
# SourceAudit.Pattern.Sequence

Sequences of parts as they are read, and the pattern that a whole sequence stands for. Letters that
follow one another are put together first, for under full folding a character of the text may match
several of them, or several characters one of them.
-/

namespace SourceAudit.Pattern

open Text

/-- How a whole pattern takes the case of characters. -/
structure Casing where
  /-- Only ASCII letters have case variants. -/
  ascii : Bool
  /-- Characters that become several under full folding count as letters with case variants. -/
  full : Bool
deriving DecidableEq, Repr

/-- Has the character case variants? -/
def Casing.isCased (k : Casing) (code : Nat) : Bool :=
  1 < (CharSet.variants k.ascii code).length || (k.full && 1 < (foldFully code).length)

/-- A part of a sequence. -/
inductive Part
  /-- One character, and how its case counts. -/
  | letter (code : Nat) (mode : CaseMode)
  | node (n : Node)
deriving DecidableEq, Repr

namespace Part

/-! ## Texts under full folding -/

/-- The folded form of a text in which the foldings of single characters are looked for. -/
def searched (codes : List Nat) : List Nat :=
  (codes.flatMap foldFully).flatMap fun c =>
    if c = 0x49 then [0x69] else if c = 0x130 then [0x69, 0x307] else [c]

/-- The places at which `part` occurs in `text`, which starts at `place`. -/
def occurrences (part : List Nat) (place : Nat) : (text : List Nat) → List Nat
  | [] => []
  | c :: text =>
    if part.isPrefixOf (c :: text) then place :: occurrences part (place + 1) text
    else occurrences part (place + 1) text

/-- Joins spans that touch or overlap, the spans being in order. -/
def joinSpans : List (Nat × Nat) → List (Nat × Nat)
  | [] => []
  | (start, stop) :: spans =>
    match joinSpans spans with
    | [] => [(start, stop)]
    | (start', stop') :: rest =>
      if start' ≤ stop then (start, max stop stop') :: rest
      else (start, stop) :: (start', stop') :: rest

/-- The spans of the folded text that are the folding of one character. -/
def foldedSpans (codes : List Nat) : List (Nat × Nat) :=
  let text := searched codes
  let spans := expansions.flatMap fun (c, _) =>
    let part := foldFully c
    (occurrences part 0 text).map fun start => (start, start + part.length)
  joinSpans (spans.mergeSort fun a b => a.1 < b.1 || (a.1 == b.1 && a.2 ≤ b.2))

/-- The pattern of characters that are compared by full folding. -/
def foldedText (ascii : Bool) : List Nat → Node
  | [] => .empty
  | [c] =>
    let letter := Node.one (.literal true ascii c)
    match foldFully c with
    | [_] => letter
    | text => .alt letter (.folded text)
  | codes => .folded (codes.flatMap foldFully)

/-- The patterns of characters one by one. -/
def letters (ignoreCase ascii : Bool) (codes : List Nat) : List Node :=
  codes.map fun c => .one (.literal ignoreCase ascii c)

/-- The patterns of a text under full folding: the characters in the given spans are compared by
full folding, and the others one by one. -/
def splitText (ascii : Bool) (place : Nat) (codes : List Nat) : List (Nat × Nat) → List Node
  | [] => letters true ascii (codes.drop place)
  | (start, stop) :: spans =>
    letters true ascii ((codes.take start).drop place) ++
      foldedText ascii ((codes.take stop).drop start) :: splitText ascii stop codes spans

/-- The patterns of some letters whose case counts in one way. -/
def ofLetters (k : Casing) (mode : CaseMode) (codes : List Nat) : List Node :=
  if mode = .exact || !codes.any k.isCased then letters false k.ascii codes
  else if mode = .full then splitText k.ascii 0 codes (foldedSpans codes)
  else letters true k.ascii codes

/-! ## Sequences -/

/-- The patterns of a sequence; `codes` holds the letters read before, last first. Letters without
case variants may join others whose case counts in another way. -/
def nodes (k : Casing) (codes : List Nat) (mode : CaseMode) : List Part → List Node
  | [] => ofLetters k mode codes.reverse
  | .letter c m :: parts =>
    if m ≠ mode ∧ (m ≠ .exact ∨ k.isCased c) then
      ofLetters k mode codes.reverse ++ nodes k [c] m parts
    else nodes k (c :: codes) mode parts
  | .node n :: parts => ofLetters k mode codes.reverse ++ n :: nodes k [] mode parts

/-- The pattern of a sequence. A letter on its own is always compared as its mode says. -/
def toNode (k : Casing) (parts : List Part) : Node :=
  match parts with
  | [.letter c .full] => foldedText k.ascii [c]
  | parts => .seq (nodes k [] .exact parts)

end Part

/-- What a quantifier applies to: one part, or a sequence in parentheses. -/
inductive Element
  | part (p : Part)
  | sequence (parts : List Part)
deriving DecidableEq, Repr

namespace Element

/-- An element that is one pattern. -/
def node (n : Node) : Element := part (.node n)

/-- The parts of an element. -/
def parts : Element → List Part
  | part p => [p]
  | sequence ps => ps

/-- The pattern of an element. -/
def toNode (k : Casing) (e : Element) : Node := Part.toNode k e.parts

end Element

end SourceAudit.Pattern
