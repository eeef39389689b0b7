import SourceAudit.Pattern.Reader.Quantifier
import SourceAudit.Pattern.Search

/-!
# SourceAudit.Pattern.Reader

Reading the written form of a pattern. `Pattern.read` gives the pattern, or says what is wrong with
its written form.

A flag in a group such as `(?i)` holds from there to the end of the group around it; the flags in
`(?i:…)` hold inside of the group only. Some flags hold for the whole pattern wherever they stand,
so reading starts again with these when one is met.

A group that ends in an unbounded repetition and is itself repeated without bound can take time
exponential in the length of a line. The written form of such a group is found by a pattern as well,
so that patterns with one can be refused.
-/

namespace SourceAudit.Pattern

open Text

namespace Reader

/-! ## Flags -/

/-- Letters of flags. -/
def flagLetters (f : Flags) : (fuel : Nat) → Reading Flags
  | 0 => return f
  | fuel + 1 => do
    let before ← rest
    let flag? ← do
      match ← next with
      | some 'V' =>
        match ← next with
        | some '0' => pure (some Flag.plainSets)
        | some '1' => pure (some Flag.nestedSets)
        | _ => pure none
      | c => pure (c.bind Flag.ofLetter?)
    match flag? with
    | some flag => flagLetters (f.union [flag]) fuel
    | none =>
      goTo before
      return f

/-- Flags to set and to clear, as in `i-s`. A flag cannot be both, a minus must clear something, and
a flag for the whole pattern cannot be cleared; one that is new starts the reading again. -/
def flagChange (whole : Flags) : Reading (Flags × Flags) := do
  let fuel := (← rest).length + 1
  let on ← flagLetters [] fuel
  let off ← do
    if ← accepts "-" then
      let off ← flagLetters [] fuel
      if off.isEmpty then invalid
      pure off
    else pure []
  if !(off.inter .forWhole).isEmpty ∨ !(on.inter off).isEmpty then invalid
  let new := (on.inter .forWhole).without whole
  if !new.isEmpty then throw (.reread (whole.union new))
  return (on.without .forWhole, off)

/-- The flags inside of a group that changes them. Flags that say what classes contain replace one
another. -/
def changedFlags (f on off : Flags) : Flags :=
  let changed := (f.union on).without off
  if (changed.inter .scopes).isEmpty then changed else (changed.without .scopes).union on

/-! ## Parts without parts of their own -/

/-- The condition of `^` or `$`. -/
def lineCondition (f : Flags) (c : Char) : Assertion :=
  if c = '^' then if f.has .multiline then .lineStart (f.has .words) else .textStart
  else if f.has .multiline then .lineEnd (f.has .words)
  else .lastLineEnd (f.has .words)

/-- Skips a comment up to its closing parenthesis. A backslash takes the next character with it. -/
def comment : (fuel : Nat) → Reading Unit
  | 0 => invalid
  | fuel + 1 => do
    match ← nextRaw with
    | some ')' => return ()
    | some '\\' =>
      let _ ← nextRaw
      comment fuel
    | some _ => comment fuel
    | none => invalid

/-- The verb with a name. -/
def verb? (name : List Char) : Option Node :=
  match String.ofList name with
  | "F" => some .never
  | "FAIL" => some .never
  | "PRUNE" => some .prune
  | "SKIP" => some .skip
  | _ => none

/-- A call of a group, which must exist and be the only one with its number. -/
def callOf (w : Whole) (k : Nat) : Reading Node :=
  if w.isKnown ∧ (w.groups < k ∨ (0 < k ∧ 1 < w.openings.count k)) then invalid
  else return .call k

/-- A call by the number that starts with `c`. -/
def numberedCall (w : Whole) (c : Char) : Reading Node := do
  let digits ← takeWhile isAsciiDigit
  expect ")"
  callOf w (← number (c :: digits))

/-- A call by the distance to a group: `+1` is the next one to be opened and `-1` the last one
opened. -/
def relativeCall (w : Whole) (forward : Bool) : Reading Node := do
  let distance ← number (← takeWhile isAsciiDigit)
  let opened := (← progress).groups
  if !forward ∧ opened < distance then invalid
  let k := if forward then opened + distance else opened + 1 - distance
  if k = 0 then invalid
  expect ")"
  callOf w k

/-- A call by name. -/
def namedCall (w : Whole) : Reading Node := do
  let name ← groupName false
  expect ")"
  callOf w (← groupNumber w name)

/-- A reference back by name or number, after `(?P=`. -/
def extendedReference (w : Whole) : Reading Node := do
  let name ← groupName true
  expect ")"
  if ← isOpen name then invalid
  reference w name

/-- The group that a condition asks for. The name `DEFINE`, unless a group has it, stands for a
group that never matches. -/
def conditionGroup (w : Whole) (name : List Char) : Reading Nat :=
  if w.isKnown && (w.numberOf? name).isNone && name == "DEFINE".toList then return 0
  else groupNumber w name

/-! ## Sequences and groups -/

/-- The parts of a sequence after one more element. -/
def withElement (done : List Part) : Option Element → List Part
  | some e => e.parts.reverse ++ done
  | none => done

/-- An element with errors. The errors of a group are those inside of it. -/
def withTolerance (k : Casing) (t : Tolerance) : Element → Element
  | .part (.node (.group k body)) => .node (.group k (.tolerant t body))
  | e => .node (.tolerant t (e.toNode k))

/-- An element with iterations. Repeating nothing, or exactly once, leaves it as it is. -/
def withIterations (k : Casing) (b : Bounds) (prefer : Preference) (e : Element) : Element :=
  let n := e.toNode k
  if n.isEmpty || b == ⟨1, some 1⟩ then e else .node (repeated n b prefer)

/-- The element of some alternatives. -/
def ofBranches (k : Casing) : List (List Part) → Element
  | [ps] => .sequence ps
  | bs => .node (.anyOf (bs.map (Part.toNode k)))

mutual

/-- Alternatives, up to a closing parenthesis or the end. With `start`, each of them counts its
groups from there. Every call of the functions here that is made within another one takes one unit
of fuel, and at most five are made before a character is read. -/
def branches (w : Whole) (whole : Flags) :
    (fuel : Nat) → (start : Option Nat) → Reading (List (List Part))
  | 0, _ => invalid
  | fuel + 1, start => do
    let first ← sequence w whole fuel (← flags).caseMode [] none
    let most := (← progress).groups
    if ← accepts "|" then
      if let some k := start then modify fun p => { p with groups := k }
      let others ← branches w whole fuel start
      if start.isSome then modify fun p => { p with groups := max p.groups most }
      return first :: others
    return [first]

/-- The parts of a sequence: `done` holds those read, last first, without the `last` one, which a
quantifier would apply to; `mode` says how the case of its letters counts. -/
def sequence (w : Whole) (whole : Flags) :
    (fuel : Nat) → (mode : CaseMode) → (done : List Part) → (last : Option Element) →
      Reading (List Part)
  | 0, _, _, _ => invalid
  | fuel + 1, mode, done, last => do
    let before ← rest
    let all := withElement done last
    let f ← flags
    match ← next with
    | none =>
      goTo before
      return all.reverse
    | some c =>
      if c = ')' ∨ c = '|' then
        goTo before
        return all.reverse
      else if c = '\\' then
        let e ← escape w false
        sequence w whole fuel mode all (some (.part e.part))
      else if c = '(' then
        match ← parenthesis w whole fuel with
        | some e => sequence w whole fuel mode all (some e)
        | none =>
          let f ← flags
          sequence w whole fuel f.caseMode done last
      else if c = '.' then sequence w whole fuel mode all (some (.node (anyChar f)))
      else if c = '[' then
        let p ← bracketed w
        sequence w whole fuel mode all (some (.part p))
      else if c = '^' ∨ c = '$' then
        sequence w whole fuel mode all (some (.node (.assertion (lineCondition f c))))
      else if c = '?' ∨ c = '*' ∨ c = '+' ∨ c = '\x7b' then
        match ← quantifier c with
        | some b =>
          match last with
          | none => invalid
          | some e =>
            let prefer ← preference
            let e := withIterations w.casing b prefer e
            sequence w whole fuel mode (withElement done (some e)) none
        | none =>
          match ← tolerance w mode with
          | some t =>
            match last with
            | none => invalid
            | some e =>
              let e := withTolerance w.casing t e
              sequence w whole fuel mode (withElement done (some e)) none
          | none => sequence w whole fuel mode all (some (.part (.letter c.toNat mode)))
      else sequence w whole fuel mode all (some (.part (.letter c.toNat mode)))

/-- A part in parentheses, after the opening one; none for a comment or flags. -/
def parenthesis (w : Whole) (whole : Flags) : (fuel : Nat) → Reading (Option Element)
  | 0 => invalid
  | fuel + 1 => do
    let before ← rest
    match ← nextRaw with
    | some '?' => special w whole fuel
    | some '*' =>
      let name ← takeWhile fun c => c ≠ ')' && c ≠ '>'
      if name.head?.any Char.isAlpha then
        match verb? name with
        | some n =>
          expect ")"
          return some (.node n)
        | none => invalid
      goTo before
      capture w whole fuel none
    | _ =>
      goTo before
      capture w whole fuel none

/-- A part in parentheses that starts with a question mark, after that. -/
def special (w : Whole) (whole : Flags) : (fuel : Nat) → Reading (Option Element)
  | 0 => invalid
  | fuel + 1 => do
    let before ← rest
    match ← nextRaw with
    | some '<' =>
      let inner ← rest
      match ← next with
      | some '=' => look w whole fuel .backward true
      | some '!' => look w whole fuel .backward false
      | _ =>
        goTo inner
        named w whole fuel
    | some '=' => look w whole fuel .forward true
    | some '!' => look w whole fuel .forward false
    | some 'P' =>
      match ← next with
      | some '<' => named w whole fuel
      | some '=' => return some (.node (← extendedReference w))
      | some '>' => return some (.node (← namedCall w))
      | some '&' => return some (.node (← namedCall w))
      | _ => invalid
    | some '#' =>
      comment ((← rest).length + 1)
      return none
    | some '(' => conditional w whole fuel
    | some '>' =>
      let e ← enclosed w whole fuel (← flags)
      return some (.node (.atomic (e.toNode w.casing)))
    | some '|' =>
      let start := (← progress).groups
      let bs ← branches w whole fuel (some start)
      expect ")"
      return some (ofBranches w.casing bs)
    | some 'R' =>
      expect ")"
      return some (.node (← callOf w 0))
    | some '&' => return some (.node (← namedCall w))
    | c =>
      if let some d := c.filter isAsciiDigit then return some (.node (← numberedCall w d))
      if c = some '+' ∨ c = some '-' then
        if (← peek).any isAsciiDigit then
          return some (.node (← relativeCall w (c = some '+')))
      goTo before
      let (on, off) ← flagChange whole
      let f ← flags
      if ← accepts ":" then
        let e ← enclosed w whole fuel (changedFlags f on off)
        return some e
      expect ")"
      setFlags ((f.union on).without off)
      return none

/-- The inside of a group with the given flags, and its closing parenthesis. -/
def enclosed (w : Whole) (whole : Flags) : (fuel : Nat) → Flags → Reading Element
  | 0, _ => invalid
  | fuel + 1, f =>
    withFlags f do
      let bs ← branches w whole fuel none
      expect ")"
      return ofBranches w.casing bs

/-- A group that remembers its span. -/
def capture (w : Whole) (whole : Flags) :
    (fuel : Nat) → (name : Option String) → Reading (Option Element)
  | 0, _ => invalid
  | fuel + 1, name => do
    let k ← openGroup name
    if name.isSome then expect ">"
    let e ← enclosed w whole fuel (← flags)
    closeGroup
    return some (.node (.group k (e.toNode w.casing)))

/-- A group with a name, after the bracket that opens the name. -/
def named (w : Whole) (whole : Flags) : (fuel : Nat) → Reading (Option Element)
  | 0 => invalid
  | fuel + 1 => do
    let name ← groupName false
    capture w whole fuel (some (String.ofList name))

/-- A look ahead or behind. -/
def look (w : Whole) (whole : Flags) :
    (fuel : Nat) → Direction → (wanted : Bool) → Reading (Option Element)
  | 0, _, _ => invalid
  | fuel + 1, d, wanted => do
    let e ← enclosed w whole fuel (← flags)
    return some (.node (.look d wanted (e.toNode w.casing)))

/-- The two sequences of a condition, the second of which may be left out. -/
def twoWays (w : Whole) (whole : Flags) : (fuel : Nat) → Reading (Node × Node)
  | 0 => invalid
  | fuel + 1 => do
    let yes ← sequence w whole fuel (← flags).caseMode [] none
    let no ← do
      if ← accepts "|" then sequence w whole fuel (← flags).caseMode [] none else pure []
    expect ")"
    return (Part.toNode w.casing yes, Part.toNode w.casing no)

/-- A condition, after its opening parenthesis. -/
def conditional (w : Whole) (whole : Flags) : (fuel : Nat) → Reading (Option Element)
  | 0 => invalid
  | fuel + 1 => do
    let before ← rest
    if (← next) = some '?' then
      let (d, wanted) ← do
        match ← next with
        | some '=' => pure (Direction.forward, true)
        | some '!' => pure (Direction.forward, false)
        | some '<' =>
          match ← next with
          | some '=' => pure (Direction.backward, true)
          | some '!' => pure (Direction.backward, false)
          | _ => invalid
        | _ => invalid
      let e ← enclosed w whole fuel (← flags)
      let (yes, no) ← twoWays w whole fuel
      return some (.node (.lookIf d wanted (e.toNode w.casing) yes no))
    goTo before
    let outer ← flags
    let name ← groupName true
    expect ")"
    let (yes, no) ← withFlags outer (twoWays w whole fuel)
    if yes.isEmpty && no.isEmpty then return some (.sequence [])
    let k ← conditionGroup w name
    return some (.node (.groupIf k yes no))

end

/-! ## Whole patterns -/

/-- Reads a whole pattern with the given flags. -/
def readWith (w : Whole) (f : Flags) (cs : List Char) : Except Stop (Node × Progress) :=
  let start : Progress := ⟨cs, f, f.has .verbose, 0, [], [], []⟩
  match branches w f (8 * cs.length + 16) none start with
  | .error e => .error e
  | .ok (bs, p) =>
    if (counted p).isEmpty then .ok ((ofBranches w.casing bs).toNode w.casing, p)
    else .error .invalid

/-- Reads a whole pattern, again with more flags as often as it asks for. Each time there is a flag
more, so seven readings are enough. -/
def readAgain (w : Whole) : (readings : Nat) → Flags → List Char →
    Except Stop (Flags × Node × Progress)
  | 0, _, _ => .error .invalid
  | readings + 1, f, cs =>
    match readWith w f cs with
    | .error (.reread more) => readAgain w readings more.complete cs
    | .error e => .error e
    | .ok (n, p) => .ok (f, n, p)

/-- Why flags cannot be in force together, if they cannot. -/
def conflict? (f : Flags) : Option String :=
  if f.has .plainSets && f.has .nestedSets then
    some "VERSION0 and VERSION1 flags are mutually incompatible"
  else if 1 < (f.inter .scopes).length then
    some "ASCII, LOCALE and UNICODE flags are mutually incompatible"
  else none

/-- Before the first reading nothing is known. -/
def unknown : Whole := ⟨false, ⟨false, false⟩, 0, [], []⟩

/-- Reads a pattern: once to know what holds for the whole, and again to build the tree. -/
def readTwice (f : Flags) (cs : List Char) : Except Stop (Node × Progress) :=
  match readAgain unknown 7 f cs with
  | .error e => .error e
  | .ok (whole, _, p) =>
    match conflict? p.flags with
    | some reason => .error (.refused reason)
    | none =>
      readWith ⟨true, p.flags.casing, p.groups, p.names, p.openings⟩ whole cs

end Reader

/-- What is wrong with the written form of a pattern. -/
inductive Flaw
  /-- It is no pattern. -/
  | malformed
  /-- It cannot be used for the given reason. -/
  | refused (reason : String)
deriving DecidableEq, Repr

/-- The pattern written as `source`. -/
def read (source : String) (ignoreCase : Bool) : Except Flaw Pattern :=
  match Reader.readTwice (if ignoreCase then [.ignoreCase] else []) source.toList with
  | .error (.refused reason) => .error (.refused reason)
  | .error _ => .error .malformed
  | .ok (root, p) =>
    let f := p.flags
    let direction : Direction := if f.has .backward then .backward else .forward
    .ok
      { source := source
        root := root
        groups := p.groups
        ignoreCase := f.has .ignoreCase
        ascii := f.casing.ascii
        direction := direction
        longest := f.has .longest
        enhance := f.has .enhance
        fewestErrors := f.has .fewestErrors
        lead := if direction = .forward then root.lead? else none }

/-- The pattern written as `source`, if that is valid. -/
def read? (source : String) (ignoreCase : Bool) : Option Pattern :=
  (read source ignoreCase).toOption

/-! ## Nested repetitions -/

/-- The written form of the end of an inner repetition, closing parentheses, and an outer unbounded
repetition. -/
def nestedRepetition : Option Pattern :=
  read? "(?<!\\\\)(?:[+*?]|\\\x7b\\d*,\\\x7d)\\)+(?:[+*]|\\\x7b\\d*,\\\x7d)" false

/-- Does the written pattern contain a nested unbounded repetition? -/
def nestsRepetition (source : String) : Bool :=
  nestedRepetition.any (·.occursIn source.toList)

end SourceAudit.Pattern
