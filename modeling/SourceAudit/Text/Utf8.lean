/-!
# SourceAudit.Text.Utf8

UTF-8 with replacement. `decode` reads any byte sequence: each maximal ill-formed part becomes one
U+FFFD. It is a machine that reads one byte at a time; its state is the character it is in the
middle of. `decode?` reads well-formed sequences only.
-/

namespace SourceAudit.Text

/-- The bytes of a text. -/
def encode (cs : List Char) : List UInt8 := cs.flatMap String.utf8EncodeChar

/-- The bytes of a string. -/
def bytesOf (s : String) : List UInt8 := s.toByteArray.data.toList

/-- The character that stands for an ill-formed part. -/
def replacement : Char := Char.ofNat 0xFFFD

namespace Utf8

/-- A character of which some bytes are read: `code` holds the bits so far, `missing + 1` bytes are
still to come, and the next of them lies between `low` and `high`. -/
structure Pending where
  code : Nat
  missing : Nat
  low : UInt8
  high : UInt8

/-- What one byte does at the start of a character: characters read, and the state after it. -/
def start (b : UInt8) : List Char × Option Pending :=
  let n := b.toNat
  if b < 0x80 then ([Char.ofNat n], none)
  else if b < 0xC2 then ([replacement], none)
  else if b < 0xE0 then ([], some ⟨n - 0xC0, 0, 0x80, 0xBF⟩)
  else if b = 0xE0 then ([], some ⟨0, 1, 0xA0, 0xBF⟩)
  else if b = 0xED then ([], some ⟨0xD, 1, 0x80, 0x9F⟩)
  else if b < 0xF0 then ([], some ⟨n - 0xE0, 1, 0x80, 0xBF⟩)
  else if b = 0xF0 then ([], some ⟨0, 2, 0x90, 0xBF⟩)
  else if b < 0xF4 then ([], some ⟨n - 0xF0, 2, 0x80, 0xBF⟩)
  else if b = 0xF4 then ([], some ⟨4, 2, 0x80, 0x8F⟩)
  else ([replacement], none)

/-- What one byte does in any state. A byte that cannot continue the pending character ends it as
ill-formed and starts afresh. -/
def step : Option Pending → UInt8 → List Char × Option Pending
  | none, b => start b
  | some p, b =>
    if p.low ≤ b ∧ b ≤ p.high then
      let code := p.code * 64 + (b.toNat - 0x80)
      match p.missing with
      | 0 => ([Char.ofNat code], none)
      | missing + 1 => ([], some ⟨code, missing, 0x80, 0xBF⟩)
    else (replacement :: (start b).1, (start b).2)

/-- The characters read from `bs` in a given state; a character left pending at the end is
ill-formed. -/
def decodeFrom : Option Pending → List UInt8 → List Char
  | none, [] => []
  | some _, [] => [replacement]
  | state, b :: bs => (step state b).1 ++ decodeFrom (step state b).2 bs

end Utf8

/-- The text of any bytes, each maximal ill-formed part read as one U+FFFD. -/
def decode (bs : List UInt8) : List Char := Utf8.decodeFrom none bs

/-- The text of well-formed bytes. -/
def decode? (bs : List UInt8) : Option (List Char) :=
  let cs := decode bs
  if encode cs = bs then some cs else none

end SourceAudit.Text
