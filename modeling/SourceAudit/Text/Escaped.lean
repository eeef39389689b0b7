import SourceAudit.Text.CharName
import SourceAudit.Text.Utf8

/-!
# SourceAudit.Text.Escaped

Texts in which characters may be written by escapes: by a letter after a backslash, by their code
point, or by their name. `decodeEscaped` reads them from bytes; a byte on its own is the character
with its number, and U+FFFD stands for an escape that is cut short or means nothing.
-/

namespace SourceAudit.Text

namespace Escaped

/-- The characters that a letter after a backslash stands for. -/
def ofLetter? : Char → Option (List Char)
  | '\n' => some []
  | '\\' => some ['\\']
  | '\'' => some ['\'']
  | '"' => some ['"']
  | 'a' => some [Char.ofNat 7]
  | 'b' => some [Char.ofNat 8]
  | 't' => some ['\t']
  | 'n' => some ['\n']
  | 'v' => some [Char.ofNat 11]
  | 'f' => some [Char.ofNat 12]
  | 'r' => some ['\r']
  | _ => none

/-- Reads up to `most` digits in a base: their number, their value after `value`, and the rest. -/
def number (base : Nat) : (most value : Nat) → List Char → Nat × Nat × List Char
  | most + 1, value, c :: cs =>
    match (hexValue? c).filter (· < base) with
    | some d =>
      let (count, value, rest) := number base most (value * base + d) cs
      (count + 1, value, rest)
    | none => (0, value, c :: cs)
  | _, value, cs => (0, value, cs)

/-- The character with a code point, if there is one. -/
def charOf (code : Nat) : Char := if code.isValidChar then Char.ofNat code else replacement

/-- A code point in exactly `count` hexadecimal digits, and the rest. -/
def wide (count : Nat) (cs : List Char) : List Char × List Char :=
  let (found, code, rest) := number 16 count 0 cs
  ([if found = count then charOf code else replacement], rest)

/-- A name in braces, and the rest. -/
def named : List Char → List Char × List Char
  | '{' :: cs =>
    let name := cs.takeWhile (· ≠ '}')
    match cs.drop name.length with
    | [] => ([replacement], [])
    | brace :: rest =>
      if name.isEmpty then ([replacement], brace :: rest)
      else ([((codeNamed? (.ofList name)).map charOf).getD replacement], rest)
  | cs => ([replacement], cs)

/-- What follows a backslash: the characters that it stands for, and the rest. With `raw`, only
code points of four or eight digits are escapes. -/
def escape (raw : Bool) : List Char → List Char × List Char
  | [] => ([if raw then '\\' else replacement], [])
  | 'u' :: cs => wide 4 cs
  | 'U' :: cs => wide 8 cs
  | c :: cs =>
    if raw then (['\\', c], cs)
    else if c = 'x' then wide 2 cs
    else if c = 'N' then named cs
    else if '0' ≤ c ∧ c ≤ '7' then
      let (_, code, rest) := number 8 3 0 (c :: cs)
      ([Char.ofNat code], rest)
    else ((ofLetter? c).getD ['\\', c], cs)

/-- The text of characters and escapes; every step reads at least one character. -/
def read (raw : Bool) : (fuel : Nat) → List Char → List Char
  | fuel + 1, '\\' :: cs => (escape raw cs).1 ++ read raw fuel (escape raw cs).2
  | fuel + 1, c :: cs => c :: read raw fuel cs
  | _, _ => []

end Escaped

/-- The text of bytes with escapes. -/
def decodeEscaped (raw : Bool) (bs : List UInt8) : List Char :=
  let cs := bs.map fun b => Char.ofNat b.toNat
  Escaped.read raw cs.length cs

end SourceAudit.Text
