import SourceAudit.Pattern.Reader.Progress
import SourceAudit.Text.CharName

/-!
# SourceAudit.Pattern.Reader.Escape

Reading what follows a backslash. An escape inside of a set has fewer meanings; an ASCII letter
without a meaning is refused, and any other character stands for itself.
-/

namespace SourceAudit.Pattern.Reader

open Text

/-- What an escape stands for. -/
inductive Escaped
  | letter (code : Nat) (mode : CaseMode)
  /-- A property, which may describe ASCII only, or its complement. -/
  | property (p : Property) (ascii positive : Bool) (mode : CaseMode)
  | node (n : Node)
deriving DecidableEq, Repr

/-- A character that an escape stands for. Sets take care of case as a whole. -/
def charEscape (inSet : Bool) (code : Nat) : Reading Escaped := do
  let f ← flags
  return .letter code (if inSet then .exact else f.caseMode)

/-- Do classes describe ASCII only? -/
def classScope (w : Whole) : Reading Bool := do
  let f ← flags
  return f.has .ascii || (!f.has .unicode && w.ascii)

/-- The property of a class such as `\w`, and whether the class is the property or its
complement. -/
def classProperty? : Char → Option (Property × Bool)
  | 'd' => some (.ofCategory "DIGIT", true)
  | 'D' => some (.ofCategory "DIGIT", false)
  | 'h' => some (.ofFlag "BLANK", true)
  | 's' => some (.ofFlag "SPACE", true)
  | 'S' => some (.ofFlag "SPACE", false)
  | 'w' => some (.ofFlag "WORD", true)
  | 'W' => some (.ofFlag "WORD", false)
  | _ => none

/-- The control character of an escape such as `\n`. -/
def controlCode? : Char → Option Nat
  | 'a' => some 7
  | 'b' => some 8
  | 'f' => some 12
  | 'n' => some 10
  | 'r' => some 13
  | 't' => some 9
  | 'v' => some 11
  | _ => none

/-- The condition of an escape such as `\b`. -/
def condition? (words ascii : Bool) : Char → Option Node
  | 'A' => some (.assertion .textStart)
  | 'b' => some (.assertion (if words then .wordBreak else .wordEdge ascii))
  | 'B' => some (.assertion (if words then .notWordBreak else .notWordEdge ascii))
  | 'K' => some .keep
  | 'm' => some (.assertion (if words then .breakStart else .wordStart ascii))
  | 'M' => some (.assertion (if words then .breakEnd else .wordEnd ascii))
  | 'z' => some (.assertion .textEnd)
  | 'Z' => some (.assertion .textEnd)
  | _ => none

/-- The number of hexadecimal digits that an escape such as `\x` takes. -/
def hexLength? : Char → Option Nat
  | 'x' => some 2
  | 'u' => some 4
  | 'U' => some 8
  | _ => none

/-- Exactly `count` hexadecimal digits after those with the value `n`. -/
def hexDigits (n : Nat) : (count : Nat) → Reading Nat
  | 0 => return n
  | count + 1 => do
    match (← next).bind hexValue? with
    | some d => hexDigits (n * 16 + d) count
    | none => invalid

/-- A character by its hexadecimal number. -/
def hexEscape (inSet : Bool) (count : Nat) : Reading Escaped := do
  let code ← hexDigits 0 count
  if code < 0x110000 then charEscape inSet code else invalid

/-- Further octal digits, up to `room`, after those with the value `n`. -/
def octalDigits (n : Nat) : (room : Nat) → Reading Nat
  | 0 => return n
  | room + 1 => do
    let before ← rest
    match ← next with
    | some c =>
      if isOctal c then octalDigits (n * 8 + (c.toNat - 0x30)) room
      else
        goTo before
        return n
    | none =>
      goTo before
      return n

/-- A reference back to a group by its name or number. -/
def reference (w : Whole) (name : List Char) : Reading Node := do
  let k ← groupNumber w name
  return .backref k (← flags).caseMode

/-- An escape that starts with the digit `c`: up to three octal digits, if the first is a zero or
there are three, or else the number of a group. A group that is still open cannot be referred to. -/
def digitEscape (w : Whole) (inSet : Bool) (c : Char) : Reading Escaped := do
  if inSet || c == '0' then
    if isOctal c then charEscape inSet (← octalDigits (c.toNat - 0x30) 2) else invalid
  else
    let before ← rest
    let second := (← next).filter isAsciiDigit
    match second with
    | none =>
      goTo before
      toGroup [c]
    | some d =>
      let before ← rest
      let third := (← next).filter isOctal
      match third with
      | some e =>
        if isOctal c && isOctal d then
          let code := ((c.toNat - 0x30) * 8 + (d.toNat - 0x30)) * 8 + (e.toNat - 0x30)
          let f ← flags
          charEscape inSet (if f.has .ascii || f.has .locale then code % 256 else code)
        else
          goTo before
          toGroup [c, d]
      | none =>
        goTo before
        toGroup [c, d]
where
  /-- A reference to the group with a number. -/
  toGroup (digits : List Char) : Reading Escaped := do
    if ← isOpen digits then invalid
    return .node (← reference w digits)

/-- A reference in angle brackets after `\g`. -/
def namedReference (w : Whole) : Reading Node := do
  expect "<"
  let name ← groupName true
  expect ">"
  if ← isOpen name then invalid
  reference w name

/-- A character by its name in braces, or else the letter before them. -/
def nameEscape (inSet : Bool) : Reading Escaped := do
  let before ← rest
  if ← accepts "\x7b" then
    let name ← takeRaw fun c => isAsciiLetter c || isAsciiDigit c || c == ' ' || c == '-'
    if ← accepts "\x7d" then
      match codeNamed? (String.ofList name) with
      | some code => return ← charEscape inSet code
      | none => invalid
  goTo before
  charEscape inSet 0x4E

/-! ## Properties -/

/-- May the character stand in the name of a property? -/
def isPropertyChar (c : Char) : Bool :=
  isAsciiLetter c || isAsciiDigit c || c == ' ' || c == '&' || c == '_' || c == '-' || c == '.'

/-- A name of a property, after that of a trait if there is one. -/
def propertyName : Reading (Option (List Char) × List Char) := do
  let name ← takeWhile isPropertyChar
  let before ← rest
  match ← next with
  | some c =>
    if c = ':' ∨ c = '=' then
      let value := strip (← takeWhile fun c => isPropertyChar c || c == '/')
      if value.isEmpty then
        goTo before
        return (none, name)
      else return (some name, value)
    else
      goTo before
      return (none, name)
  | none =>
    goTo before
    return (none, name)

/-- The property with the given names, which must exist. -/
def property (bracketed : Bool) (trait : Option (List Char)) (name : List Char) :
    Reading Property :=
  match Property.named? bracketed trait name with
  | some p => return p
  | none => invalid

/-- A property after `\p` or `\P`: in braces, where a circumflex negates, or as one of some capital
letters. What is not closed is the letter itself. -/
def propertyEscape (w : Whole) (inSet positive : Bool) : Reading Escaped := do
  let before ← rest
  let f ← flags
  let mode := if inSet then .exact else f.caseMode
  match ← next with
  | some '\x7b' =>
    let negated ← accepts "^"
    let (trait, name) ← propertyName
    if ← accepts "\x7d" then
      return .property (← property false trait name) w.ascii (positive != negated) mode
  | some c =>
    if ['C', 'L', 'M', 'N', 'P', 'S', 'Z'].contains c then
      return .property (← property false none [c]) w.ascii positive mode
  | none => pure ()
  goTo before
  charEscape inSet (if positive then 0x70 else 0x50)

/-! ## Escapes -/

/-- A line end: a carriage return and line feed together, or a single character. -/
def lineEnd : Node :=
  .atomic (.alt (.cat (.one (.anyOf [0xD])) (.one (.anyOf [0xA]))) (.one .lineEnds))

/-- A perceived character: as few characters as possible up to a boundary. -/
def cluster : Node :=
  .atomic (.cat (.loop ⟨1, none⟩ true (.one .everything)) (.assertion .clusterBreak))

/-- An escape of an ASCII letter without a form of its own. -/
def letterEscape (w : Whole) (inSet : Bool) (c : Char) : Reading Escaped := do
  let ascii ← classScope w
  let f ← flags
  match if inSet then none else condition? (f.has .words) ascii c with
  | some n => return .node n
  | none =>
    match classProperty? c with
    | some (p, positive) => return .property p ascii positive .exact
    | none =>
      match controlCode? c with
      | some code => return .letter code .exact
      | none => invalid

/-- An escape, after its backslash. -/
def escape (w : Whole) (inSet : Bool) : Reading Escaped := do
  match ← nextRaw with
  | none => invalid
  | some c =>
    match hexLength? c with
    | some count => hexEscape inSet count
    | none =>
      if c = 'g' ∧ !inSet then
        match ← attempt .invalid (namedReference w) with
        | some n => return .node n
        | none => charEscape inSet c.toNat
      else if c = 'G' ∧ !inSet then return .node (.assertion .searchStart)
      else if c = 'N' then nameEscape inSet
      else if c = 'p' ∨ c = 'P' then propertyEscape w inSet (c = 'p')
      else if c = 'R' ∧ !inSet then return .node lineEnd
      else if c = 'X' ∧ !inSet then return .node cluster
      else if isAsciiLetter c then letterEscape w inSet c
      else if isAsciiDigit c then digitEscape w inSet c
      else charEscape inSet c.toNat

end SourceAudit.Pattern.Reader
