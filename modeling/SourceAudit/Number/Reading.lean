import SourceAudit.Number.Double
import SourceAudit.Text.Blank
import SourceAudit.Text.Case
import SourceAudit.Text.Digit

/-!
# SourceAudit.Number.Reading

Numbers in text. `readInt?` reads what a response header or a listed size may hold: blanks around
it, a sign, decimal digits of any script and single underscores between digits. `settingInt` and
`settingFloat?` read what a setting or a rule field may hold, in ASCII only.
-/

namespace SourceAudit.Number

open Text

/-- Integers with more digits than this are refused. -/
def maxDigits : Nat := 4300

/-- A leading sign, `true` for minus, and the rest. -/
def splitSign : List Char → Bool × List Char
  | '-' :: cs => (true, cs)
  | '+' :: cs => (false, cs)
  | cs => (false, cs)

/-- An integer with the given sign. -/
def signed (negative : Bool) (n : Nat) : Int := if negative then -(n : Int) else n

/-- Digits with single underscores between them: their number and their value. `afterDigit` says
whether an underscore may come next. -/
def readDigits? : (afterDigit : Bool) → (count value : Nat) → List Char → Option (Nat × Nat)
  | afterDigit, count, value, [] => if afterDigit then some (count, value) else none
  | afterDigit, count, value, c :: cs =>
    if c = '_' then
      if afterDigit then readDigits? false count value cs else none
    else
      match digitValue? c with
      | some d => readDigits? true (count + 1) (value * 10 + d) cs
      | none => none

/-- An integer in free text. -/
def readInt? (s : String) : Option Int :=
  let (negative, cs) := splitSign (strip s.toList)
  match readDigits? false 0 0 cs with
  | some (count, n) => if count ≤ maxDigits then some (signed negative n) else none
  | none => none

/-- An ASCII digit. -/
def isDigit (c : Char) : Bool := '0' ≤ c && c ≤ '9'

/-- The value of ASCII digits. -/
def natOfDigits (cs : List Char) : Nat := cs.foldl (fun n c => n * 10 + (c.toNat - 0x30)) 0

/-- The value of a nonempty run of ASCII digits. -/
def natOfDigits? (cs : List Char) : Option Nat :=
  if !cs.isEmpty && cs.all isDigit then some (natOfDigits cs) else none

/-- Drops white space at both ends. -/
def stripWhite (cs : List Char) : List Char := dropEndWhile isWhite (cs.dropWhile isWhite)

/-- What is wrong with the text of an integer setting. -/
inductive IntFault
  | malformed
  /-- The text is longer than an integer may be. -/
  | tooLong
deriving DecidableEq, Repr

namespace Setting

/-- Drops leading zeros, with the underscores among them, but keeps one digit; `none` if the text
does not start like a number. `previous` is the character before the rest. -/
def dropZeros (previous : Char) : List Char → Option (List Char)
  | [] => some [previous]
  | c :: cs =>
    if c = '0' ∨ c = '_' then dropZeros c cs
    else if ('1' ≤ c ∧ c ≤ '9') ∨ c = '-' then some (c :: cs)
    else if c = '.' then some (previous :: c :: cs)
    else none

/-- The significant part of an integer's text. -/
def significant : List Char → Option (List Char)
  | '0' :: cs => dropZeros '0' cs
  | c :: cs => if c = '-' ∨ ('1' ≤ c ∧ c ≤ '9') then some (c :: cs) else none
  | [] => none

/-- Drops a fraction that consists of zeros only. -/
def dropZeroFraction (cs : List Char) : List Char :=
  let fraction := (cs.dropWhile (· ≠ '.')).drop 1
  if !fraction.isEmpty && fraction.all (· = '0') then cs.takeWhile (· ≠ '.') else cs

/-- Are there two underscores in a row? -/
def hasDoubleUnderscore : List Char → Bool
  | '_' :: '_' :: _ => true
  | _ :: cs => hasDoubleUnderscore cs
  | [] => false

/-- The text without its underscores, if these stand inside it one at a time. -/
def withoutUnderscores? (cs : List Char) : Option (List Char) :=
  if cs.head? = some '_' ∨ cs.getLast? = some '_' ∨ hasDoubleUnderscore cs then none
  else some (cs.filter (· ≠ '_'))

/-- The value of digits with underscores between them, of which the first is no zero unless it is
the only one. -/
def plainNat? (cs : List Char) : Option Nat :=
  (withoutUnderscores? cs).bind fun ds =>
    if ds.head? = some '0' ∧ ds ≠ ['0'] then none else natOfDigits? ds

/-- The integer of a text without white space around it. -/
def int? (cs : List Char) : Option Int :=
  let unsigned :=
    match cs with
    | '+' :: '-' :: _ => none
    | '+' :: cs => some cs
    | cs => some cs
  match (unsigned.bind significant).map dropZeroFraction with
  | some ('-' :: ds) => (plainNat? ds).map (signed true)
  | some ds => (plainNat? ds).map (signed false)
  | none => none

end Setting

/-- An integer setting: white space around it, a sign, underscores between digits and a fraction of
zeros are allowed. -/
def settingInt (s : String) : Except IntFault Int :=
  let cs := stripWhite s.toList
  if maxDigits < (String.ofList cs).utf8ByteSize then .error .tooLong
  else
    match Setting.int? cs with
    | some n => .ok n
    | none => .error .malformed

/-- `digits · 10 ^ exponent`, rounded. An exponent far outside the range of the format is decided
without computing the power. -/
def ofDecimal (negative : Bool) (digits : List Char) (exponent : Int) : Double :=
  let ds := digits.dropWhile (· = '0')
  let leading : Int := ds.length + exponent
  let magnitude : Double :=
    if ds.isEmpty ∨ leading < -400 then .finite 0
    else if 400 < leading then .infinity false
    else
      let n := natOfDigits ds
      let exact : Rat :=
        if 0 ≤ exponent then ((n * Nat.pow 10 exponent.toNat : Nat) : Rat)
        else mkRat n (Nat.pow 10 (-exponent).toNat)
      .ofRounded (Binary64.round exact)
  if negative then magnitude.negate else magnitude

namespace Setting

/-- A floating-point number in decimal digits: an optional point among, before or after them, and an
optional exponent. -/
def decimal? (negative : Bool) (cs : List Char) : Option Double :=
  let whole := cs.takeWhile isDigit
  let rest := cs.dropWhile isDigit
  let (fraction, rest) :=
    match rest with
    | '.' :: tail => (tail.takeWhile isDigit, tail.dropWhile isDigit)
    | _ => ([], rest)
  if whole.isEmpty && fraction.isEmpty then none
  else
    let exponent : Option Int :=
      match rest with
      | [] => some 0
      | c :: tail =>
        if c = 'e' ∨ c = 'E' then
          let (below, ds) := splitSign tail
          (natOfDigits? ds).map (signed below)
        else none
    exponent.map fun e => ofDecimal negative (whole ++ fraction) (e - fraction.length)

/-- A floating-point number, or one of the names of those that are not finite, in any case. -/
def float? (cs : List Char) : Option Double :=
  let (negative, cs) := splitSign cs
  let name := String.ofList (cs.map asciiLowerChar)
  if name = "inf" ∨ name = "infinity" then some (.infinity negative)
  else if name = "nan" then some .nan
  else decimal? negative cs

end Setting

/-- A floating-point setting. White space may stand around it; or else single underscores may stand
anywhere inside it. -/
def settingFloat? (s : String) : Option Double :=
  match Setting.float? (stripWhite s.toList) with
  | some x => some x
  | none => (Setting.withoutUnderscores? s.toList).bind Setting.float?

end SourceAudit.Number
