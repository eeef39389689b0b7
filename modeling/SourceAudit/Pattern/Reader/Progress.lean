import SourceAudit.Pattern.Flag
import SourceAudit.Text.Blank
import SourceAudit.Text.Digit

/-!
# SourceAudit.Pattern.Reader.Progress

How far the reading of a pattern has come, and taking characters from the rest. A pattern is read
twice: a first reading finds out what holds for the pattern as a whole, such as the names of its
groups, and a second one builds the tree with it.
-/

namespace SourceAudit.Pattern.Reader

open Text

/-- Why reading stops before the end of the pattern. -/
inductive Stop
  | invalid
  /-- A brace does not open a tolerance. -/
  | noTolerance
  /-- The pattern is refused for another reason. -/
  | refused (reason : String)
  /-- These flags hold for the whole pattern: read it again with them. -/
  | reread (flags : Flags)
deriving DecidableEq, Repr

/-- What holds for the pattern as a whole. -/
structure Whole where
  /-- Is this known yet? -/
  isKnown : Bool
  /-- How it takes the case of characters. -/
  casing : Casing
  /-- The number of groups. -/
  groups : Nat
  /-- The groups that have a name. -/
  names : List (String × Nat)
  /-- The number of each opened group, as often as it was opened. -/
  openings : List Nat
deriving DecidableEq, Repr

/-- Have only ASCII letters case variants? -/
def Whole.ascii (w : Whole) : Bool := w.casing.ascii

/-- How far reading has come. -/
structure Progress where
  /-- What is still to be read. -/
  rest : List Char
  /-- The flags in force. -/
  flags : Flags
  /-- Are blanks and comments skipped? -/
  skipping : Bool
  /-- The number of groups opened. -/
  groups : Nat
  names : List (String × Nat)
  /-- The groups not yet closed. -/
  opened : List Nat
  openings : List Nat
deriving DecidableEq, Repr

/-- Reading a part of a pattern. -/
abbrev Reading := StateT Progress (Except Stop)

/-- Refuses the pattern. -/
def invalid {α : Type} : Reading α := throw .invalid

/-- Reads something if that succeeds; if it does not for the reason `why`, nothing is read. -/
def attempt {α : Type} (why : Stop) (reading : Reading α) : Reading (Option α) := fun p =>
  match reading p with
  | .ok (a, p) => .ok (some a, p)
  | .error e => if e = why then .ok (none, p) else .error e

/-- How far reading has come. -/
def progress : Reading Progress := get

/-- The flags in force. -/
def flags : Reading Flags := do return (← progress).flags

/-- What is still to be read. -/
def rest : Reading (List Char) := do return (← progress).rest

/-- Goes on with another rest. -/
def goTo (cs : List Char) : Reading Unit := modify fun p => { p with rest := cs }

/-- Skips blanks and comments, which end before the next line feed; `none` for a comment that does
not end. -/
def skipBlanks (comment : Bool) : List Char → Option (List Char)
  | [] => if comment then none else some []
  | c :: cs =>
    if comment then
      if c = '\n' then skipBlanks false cs else skipBlanks true cs
    else if c = '#' then skipBlanks true cs
    else if isBlank c then skipBlanks false cs
    else some (c :: cs)

/-- The rest from the next character that counts. -/
def counted (p : Progress) : List Char :=
  if p.skipping then (skipBlanks false p.rest).getD [] else p.rest

/-- The next character that counts. -/
def next : Reading (Option Char) := do
  let p ← progress
  match counted p with
  | [] => goTo []; return none
  | c :: cs => goTo cs; return some c

/-- The next character, blanks included. -/
def nextRaw : Reading (Option Char) := do
  match ← rest with
  | [] => return none
  | c :: cs => goTo cs; return some c

/-- The next character that counts, which stays in the rest. -/
def peek : Reading (Option Char) := do return (counted (← progress)).head?

/-- Takes the characters of a text if they come next. -/
def accepts (text : String) : Reading Bool := do
  let p ← progress
  match text.toList.foldl (fun cs? t =>
      cs?.bind fun cs =>
        match counted { p with rest := cs } with
        | c :: cs => if c = t then some cs else none
        | [] => none) (some p.rest) with
  | some cs => goTo cs; return true
  | none => return false

/-- Takes a text that must come next. -/
def expect (text : String) : Reading Unit := do
  if !(← accepts text) then invalid

/-- Takes the characters with a property, with blanks and comments between them left out. -/
def takeSkipping (wanted : Char → Bool) : (comment : Bool) → List Char → List Char × List Char
  | _, [] => ([], [])
  | comment, c :: cs =>
    if comment then takeSkipping wanted (c ≠ '\n') cs
    else if c = '#' then takeSkipping wanted true cs
    else if isBlank c then takeSkipping wanted false cs
    else if wanted c then
      let (taken, cs) := takeSkipping wanted false cs
      (c :: taken, cs)
    else ([], c :: cs)

/-- Takes the characters with a property. -/
def takeWhile (wanted : Char → Bool) : Reading (List Char) := do
  let p ← progress
  if p.skipping then
    let (taken, cs) := takeSkipping wanted false p.rest
    goTo cs
    return taken
  else
    let taken := p.rest.takeWhile wanted
    goTo (p.rest.drop taken.length)
    return taken

/-- Takes the characters with a property, blanks counting as characters. -/
def takeRaw (wanted : Char → Bool) : Reading (List Char) := do
  let cs ← rest
  let taken := cs.takeWhile wanted
  goTo (cs.drop taken.length)
  return taken

/-- Reads something in which blanks count. -/
def withBlanks {α : Type} (reading : Reading α) : Reading α := do
  let skipping := (← progress).skipping
  modify fun p => { p with skipping := false }
  let a ← reading
  modify fun p => { p with skipping := skipping }
  return a

/-- Puts flags in force. -/
def setFlags (f : Flags) : Reading Unit :=
  modify fun p => { p with flags := f, skipping := f.has .verbose }

/-- Reads something after which the flags from before it are in force again. -/
def withFlags {α : Type} (f : Flags) (reading : Reading α) : Reading α := do
  let before ← flags
  setFlags f
  let a ← reading
  setFlags before
  return a

/-! ## Numbers -/

/-- An octal digit. -/
def isOctal (c : Char) : Bool := '0' ≤ c && c ≤ '7'

/-- The greatest number of digits in a number. -/
def digitLimit : Nat := 4300

/-- The number with the given digits. -/
def number (digits : List Char) : Reading Nat :=
  if digitLimit < digits.length then
    throw (.refused "Exceeds the limit (4300 digits) for integer string conversion")
  else
    match digits.mapM digitValue? with
    | some (d :: ds) => return (d :: ds).foldl (fun n d => n * 10 + d) 0
    | _ => throw (.refused "invalid literal for int() with base 10")

/-! ## Groups -/

/-- The number of the group opened next. Numbers that belong to a name are passed over. -/
def freshGroup (names : List (String × Nat)) (isNamed : Bool) : (fuel groups : Nat) → Nat
  | 0, groups => groups + 1
  | fuel + 1, groups =>
    if isNamed && names.any (·.2 = groups + 1) then freshGroup names isNamed fuel (groups + 1)
    else groups + 1

/-- Opens a group, whose number is new unless a group of that name exists. -/
def openGroup (name : Option String) : Reading Nat := do
  let p ← progress
  match name.bind fun n => p.names.find? (·.1 = n) with
  | some (_, k) =>
    let openings := if p.opened.contains k then p.openings else k :: p.openings
    set { p with opened := k :: p.opened, openings := openings }
    return k
  | none =>
    let k := freshGroup p.names name.isSome p.names.length p.groups
    let names := match name with
      | some n => (n, k) :: p.names
      | none => p.names
    set { p with
      groups := k, names := names, opened := k :: p.opened, openings := k :: p.openings }
    return k

/-- Closes the group opened last. -/
def closeGroup : Reading Unit := modify fun p => { p with opened := p.opened.drop 1 }

/-- May the character start a name? -/
def startsName (c : Char) : Bool :=
  c == '_' || (traitCalled "XIDS").get c.toNat == 1

/-- May the character stand in a name? -/
def continuesName (c : Char) : Bool := (traitCalled "XIDC").get c.toNat == 1

/-- Is it a name of a group? -/
def isGroupName (cs : List Char) : Bool := cs.head?.any startsName && cs.tail.all continuesName

/-- Is it a number, in digits of any kind? -/
def isDigits (cs : List Char) : Bool := !cs.isEmpty && cs.all isAnyDigit

/-- A name of a group, or its number where that is allowed. -/
def groupName (allowNumber : Bool) : Reading (List Char) := do
  let name ← takeWhile fun c => c ≠ ')' && c ≠ '>'
  if isDigits name then
    if !allowNumber then invalid
    if (← number name) = 0 then invalid
  else if !isGroupName name then invalid
  return name

/-- The number of the group with a name or number. -/
def Whole.numberOf? (w : Whole) (name : List Char) : Option Nat :=
  match name.mapM digitValue? with
  | some (d :: ds) => some ((d :: ds).foldl (fun n d => n * 10 + d) 0)
  | _ => (w.names.find? (·.1 = String.ofList name)).map (·.2)

/-- The group with a name or number, which must exist; until that is known, it is taken for 0. -/
def groupNumber (w : Whole) (name : List Char) : Reading Nat :=
  if !w.isKnown then return 0
  else
    match w.numberOf? name with
    | some k => if k = 0 ∨ w.groups < k then invalid else return k
    | none => invalid

/-- Is the group with a name or number still open? With nested sets, none counts as open. -/
def isOpen (name : List Char) : Reading Bool := do
  let p ← progress
  if p.flags.has .nestedSets then return false
  else if isDigits name then return p.opened.contains (← number name)
  else return (p.names.find? (·.1 = String.ofList name)).any fun (_, k) => p.opened.contains k

end SourceAudit.Pattern.Reader
