import SourceAudit.Compression.PrefixCode

/-!
# SourceAudit.Compression.Inflate

Expanding compressed bytes. They come in blocks: of bytes as they are, or of symbols in prefix
codes, each of which stands for a byte, for an earlier part of the output, or for the end of the
block. `inflate` gives what the bytes expand to, also if they are cut short.
-/

namespace SourceAudit.Compression

/-- What bytes expand to. -/
inductive Expansion
  /-- All of it, and the bytes after the last block. -/
  | complete (output : Array UInt8) (rest : List UInt8)
  /-- What could be read of bytes that end too early. -/
  | cut (output : Array UInt8)
  /-- The bytes make no sense. -/
  | corrupt

namespace Inflate

/-! ## Symbols -/

/-- The least length that each symbol from 257 on stands for, and the number of bits to add. -/
def lengths : Array (Nat × Nat) := #[
  (3, 0), (4, 0), (5, 0), (6, 0), (7, 0), (8, 0), (9, 0), (10, 0), (11, 1), (13, 1), (15, 1),
  (17, 1), (19, 2), (23, 2), (27, 2), (31, 2), (35, 3), (43, 3), (51, 3), (59, 3), (67, 4), (83, 4),
  (99, 4), (115, 4), (131, 5), (163, 5), (195, 5), (227, 5), (258, 0)]

/-- The least distance that each symbol stands for, and the number of bits to add. -/
def distances : Array (Nat × Nat) := #[
  (1, 0), (2, 0), (3, 0), (4, 0), (5, 1), (7, 1), (9, 2), (13, 2), (17, 3), (25, 3), (33, 4),
  (49, 4), (65, 5), (97, 5), (129, 6), (193, 6), (257, 7), (385, 7), (513, 8), (769, 8), (1025, 9),
  (1537, 9), (2049, 10), (3073, 10), (4097, 11), (6145, 11), (8193, 12), (12289, 12), (16385, 13),
  (24577, 13)]

/-- Reads the bits that a symbol asks for. -/
def amount (table : Array (Nat × Nat)) (index : Nat) (s : BitSource) : Reading Nat :=
  match table[index]? with
  | none => .corrupt
  | some (least, bits) =>
    match s.number? bits with
    | none => .cut
    | some (more, s) => .read (least + more) s

/-- The output followed by `count` bytes of it, from `distance` before its end on. -/
def repeated (distance : Nat) : (count : Nat) → Array UInt8 → Array UInt8
  | 0, output => output
  | count + 1, output =>
    repeated distance count (output.push (output.getD (output.size - distance) 0))

/-- What a part of the input does to the output. -/
inductive Progress
  | done (output : Array UInt8) (rest : BitSource)
  | cut (output : Array UInt8)
  | corrupt

/-- Reads a length and a distance, and repeats that part of the output. -/
def copy (far : PrefixCode) (symbol : Nat) (s : BitSource) (output : Array UInt8) : Progress :=
  match amount lengths (symbol - 257) s with
  | .cut => .cut output
  | .corrupt => .corrupt
  | .read length s =>
    match far.read s with
    | .cut => .cut output
    | .corrupt => .corrupt
    | .read symbol s =>
      match amount distances symbol s with
      | .cut => .cut output
      | .corrupt => .corrupt
      | .read distance s =>
        if output.size < distance then .corrupt else .done (repeated distance length output) s

/-- Reads symbols up to the end of a block. Each takes at least one bit, so that the number of bits
is fuel enough. -/
def symbols (near far : PrefixCode) : (fuel : Nat) → BitSource → Array UInt8 → Progress
  | 0, _, output => .cut output
  | fuel + 1, s, output =>
    match near.read s with
    | .cut => .cut output
    | .corrupt => .corrupt
    | .read symbol s =>
      if symbol < 256 then symbols near far fuel s (output.push (UInt8.ofNat symbol))
      else if symbol = 256 then .done output s
      else
        match copy far symbol s output with
        | .done output s => symbols near far fuel s output
        | stop => stop

/-! ## Blocks -/

/-- The lengths of the words of the fixed code for bytes and lengths. -/
def fixedNear : PrefixCode :=
  .ofLengths (List.replicate 144 8 ++ List.replicate 112 9 ++ List.replicate 24 7 ++
    List.replicate 8 8)

/-- The fixed code for distances. -/
def fixedFar : PrefixCode := .ofLengths (List.replicate 32 5)

/-- The order in which a block gives the lengths of the words for lengths. -/
def lengthOrder : List Nat := [16, 17, 18, 0, 8, 7, 9, 6, 10, 5, 11, 4, 12, 3, 13, 2, 14, 1, 15]

/-- Reads so many numbers of three bits. -/
def shortNumbers? : (count : Nat) → BitSource → Option (List Nat × BitSource)
  | 0, s => some ([], s)
  | count + 1, s =>
    match s.number? 3 with
    | none => none
    | some (n, s) => (shortNumbers? count s).map fun (ns, s) => (n :: ns, s)

/-- How often a symbol repeats which length: the least number of times, and the bits to add to it.
`last` is the length before. -/
def repetition? (symbol : Nat) (last : Option Nat) : Option (Nat × Nat × Nat) :=
  if symbol < 16 then some (symbol, 1, 0)
  else if symbol = 16 then last.map (·, 3, 2)
  else if symbol = 17 then some (0, 3, 3)
  else some (0, 11, 7)

/-- Reads lengths of words until there are `count`; those read are in `found`, last first. Each
symbol takes at least one bit. -/
def wordLengths (code : PrefixCode) (count : Nat) :
    (fuel : Nat) → (found : List Nat) → BitSource → Reading (List Nat)
  | 0, _, _ => .cut
  | fuel + 1, found, s =>
    if found.length = count then .read found.reverse s
    else if count < found.length then .corrupt
    else
      match code.read s with
      | .cut => .cut
      | .corrupt => .corrupt
      | .read symbol s =>
        match repetition? symbol found.head? with
        | none => .corrupt
        | some (length, least, bits) =>
          match s.number? bits with
          | none => .cut
          | some (more, s) =>
            wordLengths code count fuel (List.replicate (least + more) length ++ found) s

/-- Reads the codes that a block brings. -/
def codes (s : BitSource) : Reading (PrefixCode × PrefixCode) :=
  match s.number? 14 with
  | none => .cut
  | some (sizes, s) =>
    let near := sizes % 32 + 257
    let far := sizes / 32 % 32 + 1
    if 286 < near ∨ 30 < far then .corrupt
    else
      match shortNumbers? (sizes / 1024 + 4) s with
      | none => .cut
      | some (given, s) =>
        let given := lengthOrder.zip given
        let code := PrefixCode.ofLengths ((List.range 19).map fun i => (given.lookup i).getD 0)
        if !code.isComplete then .corrupt
        else
          match wordLengths code (near + far) (s.size + 1) [] s with
          | .cut => .cut
          | .corrupt => .corrupt
          | .read lengths s =>
            let nearCode := PrefixCode.ofLengths (lengths.take near)
            let farCode := PrefixCode.ofLengths (lengths.drop near)
            if lengths[256]? = some 0 ∨ !nearCode.isUsable ∨ !farCode.isUsable then .corrupt
            else .read (nearCode, farCode) s

/-- A block of bytes as they are, which starts at a whole byte with their number, given twice. -/
def stored (s : BitSource) (output : Array UInt8) : Progress :=
  match s.wholeBytes with
  | a :: b :: c :: d :: bytes =>
    let count := a.toNat + b.toNat * 256
    if count + (c.toNat + d.toNat * 256) ≠ 65535 then .corrupt
    else
      let given := bytes.take count
      let output := output ++ given.toArray
      if given.length < count then .cut output else .done output (.ofBytes (bytes.drop count))
  | _ => .cut output

/-- A block of the given kind. -/
def block (kind : Nat) (s : BitSource) (output : Array UInt8) : Progress :=
  match kind with
  | 0 => stored s output
  | 1 => symbols fixedNear fixedFar (s.size + 1) s output
  | 2 =>
    match codes s with
    | .cut => .cut output
    | .corrupt => .corrupt
    | .read (near, far) s => symbols near far (s.size + 1) s output
  | _ => .corrupt

/-- Reads blocks up to the last one. Each takes at least three bits. -/
def blocks : (fuel : Nat) → BitSource → Array UInt8 → Expansion
  | 0, _, output => .cut output
  | fuel + 1, s, output =>
    match s.number? 3 with
    | none => .cut output
    | some (head, s) =>
      match block (head / 2) s output with
      | .cut output => .cut output
      | .corrupt => .corrupt
      | .done output s =>
        if head % 2 = 1 then .complete output s.wholeBytes else blocks fuel s output

end Inflate

/-- What compressed bytes expand to. -/
def inflate (bs : List UInt8) : Expansion :=
  Inflate.blocks (8 * bs.length + 1) (.ofBytes bs) #[]

end SourceAudit.Compression
