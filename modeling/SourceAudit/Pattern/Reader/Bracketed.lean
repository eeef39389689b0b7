import SourceAudit.Pattern.Reader.Escape
import SourceAudit.Pattern.Sequence

/-!
# SourceAudit.Pattern.Reader.Bracketed

Reading sets in brackets. A plain set is a union of characters, ranges and properties; with nested
sets, its members may be sets again, and unions, differences, intersections and symmetric
differences of such can be written.

Case is disregarded member by member: a character belongs to a member if one of its case variants
does, and only then complements are taken.
-/

namespace SourceAudit.Pattern.Reader

open Text

/-- An operation on sets. -/
inductive SetOperator
  | union
  | either
  | inter
  | without
deriving DecidableEq, Repr

/-- A member of a set, or its complement. -/
structure Member where
  set : CharSet
  positive : Bool
deriving DecidableEq, Repr

/-- What a set in brackets or a part of it has been read as. -/
inductive Contents
  | letter (code : Nat)
  | range (first last : Nat)
  | property (p : Property) (ascii : Bool)
  | several (op : SetOperator) (members : List Member)
  | everything
deriving DecidableEq, Repr

/-- Contents, or their complement. -/
structure Bracketed where
  contents : Contents
  positive : Bool
deriving DecidableEq, Repr

/-- What an operation makes of some sets. -/
def SetOperator.apply : SetOperator → List CharSet → CharSet
  | union, ss => .unionOf ss
  | either, ss => .eitherOf ss
  | inter, ss => .interOf ss
  | without, ss => .withoutOf ss

namespace Contents

/-- The characters of the contents. -/
def set : Contents → CharSet
  | letter code => .anyOf [code]
  | range first last => .range first last
  | property p ascii => .property p ascii
  | several op members => op.apply (members.map fun m => .complIf (!m.positive) m.set)
  | everything => .everything

/-- The characters of the contents, without regard to case. -/
def caselessSet (ascii : Bool) : Contents → CharSet
  | letter code => .literal true ascii code
  | range first last => .caseless ascii (.range first last)
  | property p scope => .property p.caseless scope
  | several op members =>
    op.apply (members.map fun m => .complIf (!m.positive) (.caseless ascii m.set))
  | everything => .everything

end Contents

namespace Bracketed

/-- Contents as they are. -/
def of (c : Contents) : Bracketed := ⟨c, true⟩

/-- The complement. Every character remains so. -/
def negate (b : Bracketed) : Bracketed :=
  if b.contents = .everything then b else { b with positive := !b.positive }

/-- The members for a union: those of a union that is not complemented, or the set itself. -/
def unionMembers (b : Bracketed) : List Member :=
  match b.contents, b.positive with
  | .several .union members, true => members
  | c, positive => [⟨c.set, positive⟩]

/-- The members for another operation than a union. -/
def membersFor (op : SetOperator) (b : Bracketed) : List Member :=
  match b.contents, b.positive with
  | .several op' members, true => if op' = op then members else [⟨b.contents.set, true⟩]
  | c, positive => [⟨c.set, positive⟩]

/-- Is a property among the members together with its complement? -/
def hasComplements (members : List Member) : Bool :=
  members.any fun m =>
    match m.set with
    | .property _ _ => m.positive && members.contains ⟨m.set, false⟩
    | _ => false

/-- What an operation makes of some sets. A union of a property and its complement holds every
character. -/
def combine (op : SetOperator) : List Bracketed → Bracketed
  | [b] => b
  | bs =>
    match op with
    | .union =>
      let members := bs.flatMap unionMembers
      if bs.any (·.contents == .everything) || hasComplements members then .of .everything
      else .of (.several .union members)
    | .without =>
      let members := bs.flatMap fun b => [⟨b.contents.set, b.positive⟩]
      match members with
      | first :: second :: third :: rest =>
        let others := (second :: third :: rest).map fun m => CharSet.complIf (!m.positive) m.set
        .of (.several .without [first, ⟨.unionOf others, true⟩])
      | _ => .of (.several .without members)
    | op => .of (.several op (bs.flatMap (membersFor op)))

/-- A single character. -/
def code? (b : Bracketed) : Option Nat :=
  match b.contents, b.positive with
  | .letter code, true => some code
  | _, _ => none

/-- The foldings of the members that become several characters under full folding. -/
def foldings (b : Bracketed) : List (List Nat) :=
  let set := b.contents.set
  ((expansions.filter fun e => set.contains e.1).map fun e => foldFully e.1).eraseDups

/-- The part of a sequence that a set is. Under full folding, a set also matches the texts that its
members fold to. -/
def part (ascii : Bool) (mode : CaseMode) (b : Bracketed) : Part :=
  match b.code? with
  | some code => .letter code mode
  | none =>
    let set := if mode = .exact then b.contents.set else b.contents.caselessSet ascii
    let node := Node.one (.complIf (!b.positive) set)
    let mayExpand : Bool := match b.contents with
      | .range _ _ => true
      | .several _ _ => true
      | _ => false
    if mode = .full ∧ b.positive ∧ !ascii ∧ mayExpand then
      .node (.anyOf (node :: b.foldings.map fun text => .folded text))
    else .node node

end Bracketed

/-! ## Reading -/

/-- A named class after `[:`; none if it is not closed by `:]`. -/
def namedClass (w : Whole) : Reading (Option Bracketed) := do
  let negated ← accepts "^"
  let (trait, name) ← propertyName
  if ← accepts ":]" then
    return some ⟨.property (← property true trait name) w.ascii, !negated⟩
  else return none

/-- The set of an escape. -/
def escapedSet (w : Whole) : Reading Bracketed := do
  match ← escape w true with
  | .letter code _ => return .of (.letter code)
  | .property p ascii positive _ => return ⟨.property p ascii, positive⟩
  | .node _ => invalid

/-- The operators, the one that binds least first. -/
def operators : List (String × SetOperator) :=
  [("||", .union), ("~~", .either), ("&&", .inter), ("--", .without)]

/-- Does an operator come next? -/
def atOperator : Reading Bool := do
  let before ← rest
  let mut found := false
  for (sign, _) in operators do
    if ← accepts sign then
      goTo before
      found := true
  return found

/-- The operands of an operator, which are read by `operand`. Each takes a character at least. -/
def operands (sign : String) (operand : Reading Bracketed) : (fuel : Nat) →
    Reading (List Bracketed)
  | 0 => return []
  | fuel + 1 => do
    if ← accepts sign then
      let b ← operand
      return b :: (← operands sign operand fuel)
    else return []

/-- What is read by `operand`, or several of it with operators of the given strengths between. -/
def operation (fuel : Nat) (operand : Reading Bracketed) :
    List (String × SetOperator) → Reading Bracketed
  | [] => operand
  | (sign, op) :: ops => do
    let inner := operation fuel operand ops
    let first ← inner
    return .combine op (first :: (← operands sign inner fuel))

mutual

/-- One item: an escape, a named class, a nested set or a character. Every call of the functions
here that is made within another one takes one unit of fuel, and at most three are made before a
character is read. -/
def setItem (w : Whole) : (fuel : Nat) → Reading Bracketed
  | 0 => invalid
  | fuel + 1 => do
    if ← accepts "\\" then return ← escapedSet w
    let before ← rest
    if ← accepts "[:" then
      if let some b ← namedClass w then return b
      goTo before
    if (← flags).has .nestedSets then
      if ← accepts "[" then
        let negated ← accepts "^"
        let b ← operation fuel (setUnion w fuel) operators
        expect "]"
        return if negated then b.negate else b
    match ← next with
    | some c => return .of (.letter c.toNat)
    | none => invalid

/-- One member: an item, or two items with a hyphen between them. These form a range if both are
characters; a hyphen before the closing bracket stands for itself. -/
def setMember (w : Whole) : (fuel : Nat) → Reading Bracketed
  | 0 => invalid
  | fuel + 1 => do
    let first ← setItem w fuel
    match first.code? with
    | none => return first
    | some a =>
      let before ← rest
      if !(← accepts "-") then return first
      if (← flags).has .nestedSets then
        if ← accepts "-" then
          goTo before
          return first
      let hyphen := Bracketed.of (.letter 0x2D)
      let afterHyphen ← rest
      if ← accepts "]" then
        goTo afterHyphen
        return .combine .union [first, hyphen]
      let last ← setItem w fuel
      match last.code? with
      | none => return .combine .union [first, hyphen, last]
      | some b =>
        if b < a then invalid
        else if a = b then return first
        else return .of (.range a b)

/-- The members up to a closing bracket or an operator. -/
def setUnion (w : Whole) : (fuel : Nat) → Reading Bracketed
  | 0 => invalid
  | fuel + 1 => do
    let first ← setMember w fuel
    return .combine .union (first :: (← setMembers w fuel))

/-- The further members up to a closing bracket or an operator. -/
def setMembers (w : Whole) : (fuel : Nat) → Reading (List Bracketed)
  | 0 => invalid
  | fuel + 1 => do
    let before ← rest
    if ← accepts "]" then
      goTo before
      return []
    if (← flags).has .nestedSets then
      if ← atOperator then return []
    let b ← setMember w fuel
    return b :: (← setMembers w fuel)

end

/-- A set, after its opening bracket. -/
def bracketed (w : Whole) : Reading Part := do
  let f ← flags
  let b ← withBlanks do
    let negated ← accepts "^"
    let fuel := 3 * (← rest).length + 4
    let b ←
      if f.has .nestedSets then operation fuel (setUnion w fuel) operators else setUnion w fuel
    expect "]"
    return if negated then b.negate else b
  return b.part w.ascii f.caseMode

end SourceAudit.Pattern.Reader
