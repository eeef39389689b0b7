import SourceAudit.Pattern.Reader.Bracketed

/-!
# SourceAudit.Pattern.Reader.Quantifier

Reading what may follow a part: the number of its iterations, as in `*` or `{2,5}`, and the errors
that it tolerates, as in `{e<=2}` or `{i<=1,2i+1d<=4}`. A brace that opens neither stands for
itself.
-/

namespace SourceAudit.Pattern.Reader

open Text

/-! ## Iterations -/

/-- Counts from here on are too large for a repetition. -/
def countBound : Nat := 0xFFFFFFFF

/-- The counts of a limited repetition after its opening brace, as in `2}`, `2,}` or `,5}`. -/
def limits : Reading (Option Bounds) := do
  let before ← rest
  let first ← takeWhile isAsciiDigit
  let counts : Option Bounds ← do
    if ← accepts "," then
      let second ← takeWhile isAsciiDigit
      let least ← if first.isEmpty then pure 0 else number first
      let greatest ← if second.isEmpty then pure none else some <$> number second
      pure (some ⟨least, greatest⟩)
    else if first.isEmpty then pure none
    else
      let n ← number first
      pure (some ⟨n, some n⟩)
  match counts with
  | none =>
    goTo before
    return none
  | some b =>
    if !(← accepts "\x7d") then
      goTo before
      return none
    if countBound ≤ b.least ∨ b.greatest.any (fun n => countBound ≤ n || n < b.least) then invalid
    return some b

/-- The counts of the repetition that starts with `c`, if it is one. -/
def quantifier (c : Char) : Reading (Option Bounds) :=
  if c = '?' then return some ⟨0, some 1⟩
  else if c = '*' then return some ⟨0, none⟩
  else if c = '+' then return some ⟨1, none⟩
  else limits

/-- Which number of iterations a repetition prefers. -/
inductive Preference
  /-- As many as possible. -/
  | most
  /-- As few as possible. -/
  | fewest
  /-- As many as possible, and no others once these are found. -/
  | mostOnly
deriving DecidableEq, Repr

/-- The mark after a repetition that says which number of iterations it prefers. -/
def preference : Reading Preference := do
  let before ← rest
  match ← next with
  | some '?' => return .fewest
  | some '+' => return .mostOnly
  | _ =>
    goTo before
    return .most

/-- A repeated pattern. -/
def repeated (n : Node) (b : Bounds) : Preference → Node
  | .most => .loop b false n
  | .fewest => .loop b true n
  | .mostOnly => .atomic (.loop b false n)

/-! ## Errors -/

/-- The bounds written for errors: those of the kinds `d`, `i` and `s` and of all errors, `e`; and
the cost of each kind with the greatest sum. -/
structure Written where
  bounds : List (Char × Bounds)
  cost : Option (List (Char × Nat) × Nat)
deriving DecidableEq, Repr

namespace Written

/-- Nothing written. -/
def nothing : Written := ⟨[], none⟩

/-- Is something written for a kind of error? -/
def has (r : Written) (k : Char) : Bool := r.bounds.any (·.1 = k)

/-- The cost written for a kind of error. -/
def costOf (r : Written) (k : Char) : Option Nat :=
  r.cost.bind fun (costs, _) => (costs.find? (·.1 = k)).map (·.2)

/-- The bounds for a kind of error. A kind with a cost but no bounds is unbounded; once any kind is
written, the others do not occur. -/
def boundsOf (r : Written) (k : Char) : Bounds :=
  match r.bounds.find? (·.1 = k) with
  | some (_, b) => b
  | none =>
    let written (k : Char) : Bool := r.has k || (r.costOf k).isSome
    if (r.costOf k).isSome then .any
    else if written 'd' || written 'i' || written 's' then .none
    else .any

/-- The bounds for all errors together. -/
def total (r : Written) : Bounds :=
  match r.bounds.find? (·.1 = 'e') with
  | some (_, b) => b
  | none => .any

/-- The tolerance written. Without costs, every error costs one. -/
def tolerance (r : Written) (allowed : Option CharSet) : Tolerance :=
  let weight (k : Char) : Nat := match r.cost with
    | none => 1
    | some _ => (r.costOf k).getD 0
  { replaced := r.boundsOf 's'
    added := r.boundsOf 'i'
    missing := r.boundsOf 'd'
    total := r.total
    cost := ⟨weight 's', weight 'i', weight 'd'⟩
    greatestCost := match r.cost with
      | none => r.total.greatest
      | some (_, most) => some most
    allowed := allowed }

end Written

/-- A bound on a number of errors. -/
def errorCount : Reading Nat := do
  let digits ← takeWhile isAsciiDigit
  if digits.isEmpty ∨ digitLimit < digits.length then invalid
  number digits

/-- A sign between a number and a kind of error: true for one that admits both to be equal. -/
def comparison : Reading (Option Bool) := do
  if ← accepts "<=" then return some true
  if ← accepts "<" then return some false
  return none

/-- A kind of error that nothing has been written for. -/
def errorKind (r : Written) (c : Option Char) : Reading Char := do
  match c with
  | some k =>
    if !(['d', 'e', 'i', 's'].contains k) then throw .noTolerance
    if r.has k then invalid
    return k
  | none => throw .noTolerance

/-- Bounds for one kind of error, as in `e`, `e<=2` or `1<e<4`. -/
def errorBounds (r : Written) : Reading Written := do
  let before ← rest
  match ← next with
  | none => throw .noTolerance
  | some c =>
    if isAsciiLetter c then
      let k ← errorKind r (some c)
      match ← comparison with
      | none => return { r with bounds := (k, .any) :: r.bounds }
      | some inclusive =>
        let most ← errorCount
        if !inclusive ∧ most = 0 then invalid
        let most := if inclusive then most else most - 1
        return { r with bounds := (k, ⟨0, some most⟩) :: r.bounds }
    else if isAsciiDigit c then
      goTo before
      let least ← errorCount
      match ← comparison with
      | none => throw .noTolerance
      | some lowInclusive =>
        let k ← errorKind r (← next)
        match ← comparison with
        | none => throw .noTolerance
        | some inclusive =>
          let most ← errorCount
          let least := if lowInclusive then least else least + 1
          if (!inclusive ∧ most = 0) then invalid
          let most := if inclusive then most else most - 1
          if most < least then invalid
          return { r with bounds := (k, ⟨least, some most⟩) :: r.bounds }
    else throw .noTolerance

/-- The terms of a sum of costs, after those read. -/
def costTerms (costs : List (Char × Nat)) : (fuel : Nat) → Reading (List (Char × Nat))
  | 0 => throw .noTolerance
  | fuel + 1 => do
    let digits ← takeWhile isAsciiDigit
    match ← next with
    | some k =>
      if !(['d', 'i', 's'].contains k) then throw .noTolerance
      if costs.any (·.1 = k) then invalid
      let weight ← if digits.isEmpty then pure 1 else number digits
      let costs := (k, weight) :: costs
      if ← accepts "+" then costTerms costs fuel else return costs
    | none => throw .noTolerance

/-- A bound on a sum of costs, as in `2i+1d<=4`. -/
def costBound (r : Written) : Reading Written := do
  if r.cost.isSome then invalid
  let costs ← costTerms [] 4
  match ← comparison with
  | none => throw .noTolerance
  | some inclusive =>
    let most ← number (← takeWhile isAsciiDigit)
    if !inclusive ∧ most = 0 then invalid
    return { r with cost := some (costs, if inclusive then most else most - 1) }

/-- Bounds for errors with commas between them. -/
def errorItems (r : Written) : (fuel : Nat) → Reading Written
  | 0 => throw .noTolerance
  | fuel + 1 => do
    let r ← match ← attempt .noTolerance (errorBounds r) with
      | some r => pure r
      | none => costBound r
    if ← accepts "," then errorItems r fuel else return r

/-- The pattern of `.`. -/
def anyChar (f : Flags) : Node :=
  .one (if f.has .dotAll then .everything
    else if f.has .words then .compl .lineEnds
    else .withinLine)

/-- The part that an escape is. -/
def Escaped.part : Escaped → Part
  | .letter code mode => .letter code mode
  | .property p ascii positive mode =>
    .node (.one (.complIf (!positive) (.property (if mode = .exact then p else p.caseless) ascii)))
  | .node n => .node n

/-- The characters that one part matches. -/
def partSet (ascii : Bool) : Part → CharSet
  | .letter code mode => .literal (mode != .exact) ascii code
  | .node (.one s) => s
  | .node _ => .everything

/-- The characters that may be replaced or added. -/
def errorChars (w : Whole) (mode : CaseMode) : Reading CharSet := do
  match ← next with
  | none => invalid
  | some c =>
    let p ←
      if c = '\\' then Escaped.part <$> escape w false
      else if c = '.' then Part.node <$> anyChar <$> flags
      else if c = '[' then bracketed w
      else if ['(', ')', '|', '?', '*', '+', '\x7b', '^', '$', '#'].contains c then invalid
      else pure (.letter c.toNat mode)
    return partSet w.ascii p

/-- The tolerance after an opening brace, if there is one. -/
def tolerance (w : Whole) (mode : CaseMode) : Reading (Option Tolerance) := do
  match ← attempt .noTolerance (errorItems .nothing 6) with
  | none => return none
  | some r =>
    let allowed ← if ← accepts ":" then some <$> errorChars w mode else pure none
    expect "\x7d"
    return some (r.tolerance allowed)

end SourceAudit.Pattern.Reader
