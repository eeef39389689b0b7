import SourceAudit.Text.Utf8

/-!
# SourceAudit.Text.Utf16

Texts in units of 16 or 32 bits, in either byte order. A surrogate pair of 16-bit units is one
character; what stands for half a pair on its own is up to the reader.
-/

namespace SourceAudit.Text

/-- The order of the bytes of a unit. -/
inductive ByteOrder
  | big
  | little
deriving DecidableEq, Repr

/-- The unit of two bytes. -/
def ByteOrder.unit16 (order : ByteOrder) (a b : UInt8) : Nat :=
  match order with
  | .big => a.toNat * 256 + b.toNat
  | .little => b.toNat * 256 + a.toNat

/-- The unit of four bytes. -/
def ByteOrder.unit32 (order : ByteOrder) (a b c d : UInt8) : Nat :=
  match order with
  | .big => order.unit16 a b * 65536 + order.unit16 c d
  | .little => order.unit16 c d * 65536 + order.unit16 a b

/-- The first half of a surrogate pair. -/
def isHighSurrogate (u : Nat) : Bool := 0xD800 ≤ u && u < 0xDC00

/-- The second half of a surrogate pair. -/
def isLowSurrogate (u : Nat) : Bool := 0xDC00 ≤ u && u < 0xE000

/-- Either half of a surrogate pair. -/
def isSurrogate (u : Nat) : Bool := isHighSurrogate u || isLowSurrogate u

/-- The character with a code point; half of a surrogate pair reads as U+FFFD. -/
def charOfCode (code : Nat) : Char := if isSurrogate code then replacement else Char.ofNat code

/-- No character is half of a surrogate pair. -/
theorem charOfCode_toNat (c : Char) : charOfCode c.toNat = c := by
  have hvalid : isSurrogate c.toNat = false := by
    have h := c.valid
    simp only [UInt32.isValidChar, Nat.isValidChar] at h
    simp only [isSurrogate, isHighSurrogate, isLowSurrogate]
    grind [Char.toNat, UInt32.toNat]
  simp [charOfCode, hvalid, Char.ofNat_toNat]

/-- The character of a surrogate pair. -/
def pairChar (high low : Nat) : Char :=
  Char.ofNat (0x10000 + (high - 0xD800) * 0x400 + (low - 0xDC00))

/-- The 16-bit units of bytes, which must be even in number. -/
def units16? (order : ByteOrder) : List UInt8 → Option (List Nat)
  | [] => some []
  | a :: b :: bs => (units16? order bs).map (order.unit16 a b :: ·)
  | _ => none

/-- The characters of 16-bit units; `half` gives what stands for half a pair on its own. -/
def ofUnits16 (half : Nat → List Char) : List Nat → List Char
  | [] => []
  | u :: us =>
    if isHighSurrogate u then
      match us with
      | v :: rest =>
        if isLowSurrogate v then pairChar u v :: ofUnits16 half rest
        else half u ++ ofUnits16 half (v :: rest)
      | [] => half u
    else if isLowSurrogate u then half u ++ ofUnits16 half us
    else Char.ofNat u :: ofUnits16 half us

/-- The 32-bit units of bytes, of which there must be whole units. -/
def units32? (order : ByteOrder) : List UInt8 → Option (List Nat)
  | [] => some []
  | a :: b :: c :: d :: bs => (units32? order bs).map (order.unit32 a b c d :: ·)
  | _ => none

/-- The characters of 32-bit units; `half` gives what stands for half a surrogate pair, and every
other unit must be the number of a character. -/
def ofUnits32? (half : Nat → List Char) : List Nat → Option (List Char)
  | [] => some []
  | u :: us =>
    if isSurrogate u then (ofUnits32? half us).map (half u ++ ·)
    else if u.isValidChar then (ofUnits32? half us).map (Char.ofNat u :: ·)
    else none

end SourceAudit.Text
