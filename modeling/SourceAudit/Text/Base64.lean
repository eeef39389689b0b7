import SourceAudit.Text.Word

/-!
# SourceAudit.Text.Base64

Bytes in text: three bytes become four characters of six bits each, and `=` fills up the last four.
-/

namespace SourceAudit.Text.Base64

/-- The character of six bits. -/
def digit (n : Nat) : Char :=
  if n < 26 then Char.ofNat (0x41 + n)
  else if n < 52 then Char.ofNat (0x61 + (n - 26))
  else if n < 62 then Char.ofNat (0x30 + (n - 52))
  else if n = 62 then '+'
  else '/'

/-- The six bits of a character. -/
def value? (c : Char) : Option Nat :=
  let n := c.toNat
  if 'A' ≤ c ∧ c ≤ 'Z' then some (n - 0x41)
  else if 'a' ≤ c ∧ c ≤ 'z' then some (n - 0x61 + 26)
  else if isAsciiDigit c then some (n - 0x30 + 52)
  else if c = '+' then some 62
  else if c = '/' then some 63
  else none

/-- The first `count` of the four characters of 24 bits. -/
def digits (count bits : Nat) : List Char :=
  [digit (bits / 0x40000), digit (bits / 0x1000 % 64), digit (bits / 64 % 64),
    digit (bits % 64)].take count

/-- The text of some bytes. -/
def encode : List UInt8 → List Char
  | a :: b :: c :: bs => digits 4 (a.toNat * 0x10000 + b.toNat * 0x100 + c.toNat) ++ encode bs
  | [a, b] => digits 3 (a.toNat * 0x10000 + b.toNat * 0x100) ++ ['=']
  | [a] => digits 2 (a.toNat * 0x10000) ++ ['=', '=']
  | [] => []

end SourceAudit.Text.Base64
