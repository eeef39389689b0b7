import SourceAudit.Pattern.Machine

/-!
# SourceAudit.Pattern.Search

Searching a line for the matches of a pattern, one after the other and without overlap. After an
empty match the search goes on at the same place but for a match that ends elsewhere, so an empty
match may follow a nonempty one at its end, and no match is found twice. A pattern that is searched
backward is followed from the end of the line to its start.
-/

namespace SourceAudit

open Pattern

/-- A pattern ready for matching. -/
structure Pattern where
  /-- The pattern as written. -/
  source : String
  root : Node
  /-- The number of its groups. -/
  groups : Nat
  /-- Is the whole pattern matched without regard to case? -/
  ignoreCase : Bool
  /-- Only ASCII letters have case variants. -/
  ascii : Bool
  direction : Direction
  /-- The longest match at a place is wanted and not the first one. -/
  longest : Bool
  /-- A match with errors is followed by a search for a better one within it. -/
  enhance : Bool
  /-- The match with the fewest errors is wanted and not the first one. -/
  fewestErrors : Bool
  /-- A set with the first character of every match, if there is one. -/
  lead : Option CharSet
deriving DecidableEq, Repr

/-- One match: its span, and the spans of its groups. -/
structure Match where
  start : Nat
  stop : Nat
  captures : Captures
deriving DecidableEq, Repr

namespace Match

/-- The span of a group, the whole match being group 0; `none` if the group took no part. Only
groups of the pattern are asked for: the rules of a registry name no others. -/
def span? (m : Match) (number : Nat) : Option (Nat × Nat) :=
  if number = 0 then some (m.start, m.stop) else m.captures.span? number

end Match

namespace Pattern

/-- A part of a text, and where in it a search begins. -/
structure Place where
  subject : Subject
  low : Nat
  high : Nat
  /-- Where the search began. -/
  anchor : Nat
  /-- A match may not end where the search began. -/
  mustAdvance : Bool

/-- The place after `pos` where a match may start. -/
def nextPlace? (d : Direction) (low high pos : Nat) (skipTo : Option Nat) : Option Nat :=
  match d with
  | .forward =>
    let next := max (pos + 1) (skipTo.getD 0)
    if next ≤ high then some next else none
  | .backward =>
    if pos ≤ low then none
    else
      let next := min (pos - 1) (skipTo.getD pos)
      if low ≤ next then some next else none

/-- May a match start at a place, given the characters that all matches start with? -/
def mayStart (lead : Option CharSet) (s : Subject) (pos : Nat) : Bool :=
  match lead with
  | none => true
  | some set => (s.after? pos).any set.contains

/-- The first match at `pos` or a later place, of which there are at most `room`. -/
def firstFrom (q : Search) (f : Frame) (groups : Nat) (lead : Option CharSet) :
    (room pos : Nat) → Option State
  | 0, _ => none
  | room + 1, pos =>
    let (found, skipTo) :=
      if mayStart lead q.subject pos then q.matchAt f groups pos else (none, none)
    match found with
    | some st => some st
    | none =>
      match nextPlace? f.direction f.low f.high pos skipTo with
      | some pos => firstFrom q f groups lead room pos
      | none => none

/-- The first match at `pos` or a later place between `low` and `high`, with at most `errorLimit`
errors in one part. -/
def firstMatch (p : Pattern) (place : Place) (low high pos : Nat) (errorLimit : Option Nat) :
    Option State :=
  firstFrom ⟨place.subject, p.root, p.ascii, place.anchor, place.mustAdvance, p.longest, errorLimit⟩
    ⟨p.direction, low, high, false⟩ p.groups p.lead (place.subject.size + 1) pos

/-- A match with fewer errors than `st`, as long as there is one: anywhere, or only within the match
found. Every match has an error less than the one before it. -/
def improve (p : Pattern) (place : Place) (within : Bool) : (fuel : Nat) → State → State
  | 0, st => st
  | fuel + 1, st =>
    let low := if within then min st.start st.pos else place.low
    let high := if within then max st.start st.pos else place.high
    let pos := if within then st.start else place.anchor
    match p.firstMatch place low high pos (some (st.errors.total - 1)) with
    | none => st
    | some better =>
      if st.errors.total ≤ better.errors.total then st
      else if within && better.start == st.start && better.pos == st.pos then better
      else improve p place within fuel better

/-- The match that a search at a place finds. -/
def search (p : Pattern) (place : Place) : Option State :=
  (p.firstMatch place place.low place.high place.anchor none).map fun st =>
    if p.root.isTolerant && (p.fewestErrors || p.enhance) then
      p.improve place (!p.fewestErrors) st.errors.total st
    else st

/-- The matches from a place on. Of two in a row that end at the same place only the second is
empty, so twice the number of characters and two bounds their number. -/
def matchesFrom (p : Pattern) : (fuel : Nat) → Place → List Match
  | 0, _ => []
  | fuel + 1, place =>
    match p.search place with
    | none => []
    | some st =>
      ⟨min st.start st.pos, max st.start st.pos, st.captures⟩ ::
        matchesFrom p fuel { place with anchor := st.pos, mustAdvance := st.start == st.pos }

/-- All matches in the characters of `line` from `start` up to `stop`; places beyond the end of the
line count as its end, and `stop` is no less than `start`. -/
def findAll (p : Pattern) (line : List Char) (start stop : Nat) : List Match :=
  let low := min start line.length
  let high := max low (min stop line.length)
  let anchor := match p.direction with
    | .forward => low
    | .backward => high
  p.matchesFrom (2 * (high - low) + 2) ⟨.ofLine line high, low, high, anchor, false⟩

/-- Does the pattern match anywhere in the line? -/
def occursIn (p : Pattern) (line : List Char) : Bool :=
  let anchor := match p.direction with
    | .forward => 0
    | .backward => line.length
  (p.search ⟨.ofLine line line.length, 0, line.length, anchor, false⟩).isSome

end Pattern

end SourceAudit
