/-!
# SourceAudit.Compression.PrefixCode

Bits of a sequence of bytes, each byte from its lowest bit on, and prefix codes given by the lengths
of their words. Numbers are read with the lowest bit first, and what is left of a byte can be
skipped. Words of one length are consecutive numbers in the order of their symbols, and shorter
words come before longer ones. A word is read from its highest bit on.
-/

namespace SourceAudit.Compression

/-- A sequence of bits: what is left of the byte at hand, and the bytes after it. -/
structure BitSource where
  pending : List Bool
  bytes : List UInt8

namespace BitSource

/-- The bits of some bytes. -/
def ofBytes (bs : List UInt8) : BitSource := ⟨[], bs⟩

/-- The bits of a byte, lowest first. -/
def bitsOf (b : UInt8) : List Bool := (List.range 8).map b.toNat.testBit

/-- The number of bits. -/
def size (s : BitSource) : Nat := s.pending.length + 8 * s.bytes.length

/-- The first bit and the rest. -/
def next? : BitSource → Option (Bool × BitSource)
  | ⟨bit :: bits, bytes⟩ => some (bit, ⟨bits, bytes⟩)
  | ⟨[], b :: bytes⟩ => some (b.toNat.testBit 0, ⟨(bitsOf b).drop 1, bytes⟩)
  | ⟨[], []⟩ => none

/-- A number of so many bits, lowest first, and the rest. -/
def number? : (bits : Nat) → BitSource → Option (Nat × BitSource)
  | 0, s => some (0, s)
  | bits + 1, s =>
    match s.next? with
    | none => none
    | some (bit, s) => (number? bits s).map fun (n, s) => (2 * n + bit.toNat, s)

/-- The whole bytes that are left. -/
def wholeBytes (s : BitSource) : List UInt8 := s.bytes

end BitSource

/-- A prefix code with words of up to 15 bits. -/
structure PrefixCode where
  /-- The number of words of each length, from 1 on. -/
  counts : List Nat
  /-- The symbols in the order of their words. -/
  symbols : Array Nat

/-- What becomes of reading from bits that may be too few or make no sense. -/
inductive Reading (α : Type) where
  | read (a : α) (rest : BitSource)
  /-- The bits end too early. -/
  | cut
  /-- The bits make no sense. -/
  | corrupt

namespace PrefixCode

/-- The most bits of a word. -/
def maxBits : Nat := 15

/-- The code whose word for each symbol has the given length; without a length there is no word. -/
def ofLengths (lengths : List Nat) : PrefixCode :=
  let numbered := lengths.zipIdx
  let ofLength (n : Nat) := numbered.filter (·.1 = n)
  let groups := (List.range' 1 maxBits).map ofLength
  ⟨groups.map List.length, (groups.flatMap fun g => g.map (·.2)).toArray⟩

/-- How many more words of the last length there could be, after words of the lengths counted;
`none` if there are too many already. -/
def room? : (free : Nat) → (counts : List Nat) → Option Nat
  | free, [] => some free
  | free, count :: counts => if 2 * free < count then none else room? (2 * free - count) counts

/-- Is every sequence of bits made up of words? -/
def isComplete (c : PrefixCode) : Bool := room? 1 c.counts = some 0

/-- Has the code no words but at most a single one of one bit? -/
def isTrivial (c : PrefixCode) : Bool := c.symbols.isEmpty || c.counts.head? = some c.symbols.size

/-- May the code be used: is it complete, or trivial and not too full? -/
def isUsable (c : PrefixCode) : Bool := c.isComplete || (c.isTrivial && (room? 1 c.counts).isSome)

/-- Reads the rest of a word. Of its bits so far, `word` is the number; the words of that length
begin at `first`, and `index` symbols have shorter words. -/
def readFrom (symbols : Array Nat) :
    (counts : List Nat) → (word first index : Nat) → BitSource → Reading Nat
  | [], _, _, _, _ => .corrupt
  | count :: counts, word, first, index, s =>
    match s.next? with
    | none => .cut
    | some (bit, s) =>
      let word := 2 * word + bit.toNat
      if word < first + count then
        match symbols[index + (word - first)]? with
        | some symbol => .read symbol s
        | none => .corrupt
      else readFrom symbols counts word (2 * (first + count)) (index + count) s

/-- Reads a word, and gives its symbol. -/
def read (c : PrefixCode) (s : BitSource) : Reading Nat := readFrom c.symbols c.counts 0 0 0 s

end PrefixCode

end SourceAudit.Compression
