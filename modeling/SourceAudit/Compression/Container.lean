import SourceAudit.Compression.Inflate

/-!
# SourceAudit.Compression.Container

Compressed bytes with a header before and checksums after them. What a container holds is also given
if it is cut short; a wrong header or checksum makes it corrupt, which is `none`. A checksum is the
remainder of a polynomial division, or a pair of sums.
-/

namespace SourceAudit.Compression

/-- One bit of the division. -/
def remainderBit (r : UInt32) : UInt32 :=
  if r &&& 1 = 1 then (r >>> 1) ^^^ 0xEDB88320 else r >>> 1

/-- One byte of the division. -/
def remainderByte (r : UInt32) (b : UInt8) : UInt32 :=
  (List.range 8).foldl (fun r _ => remainderBit r) (r ^^^ b.toUInt32)

/-- The remainder of the division by the polynomial 0x04C11DB7, bits reversed and complemented. -/
def crc32 (bs : List UInt8) : Nat := (bs.foldl remainderByte 0xFFFFFFFF ^^^ 0xFFFFFFFF).toNat

/-- The sum of the bytes and the sum of these sums, both modulo 65521. -/
def adler32 (bs : List UInt8) : Nat :=
  let (a, b) := bs.foldl (fun (a, b) byte =>
    let a := (a + byte.toNat) % 65521
    (a, (b + a) % 65521)) (1, 0)
  b * 65536 + a

/-- A number in bytes, lowest first. -/
def little (bs : List UInt8) : Nat := bs.foldr (fun b n => b.toNat + 256 * n) 0

/-- What is left of the bytes after a part that is there if `isThere`. -/
inductive Header
  | rest (bs : List UInt8)
  | cut
  | corrupt

namespace Header

/-- Goes on after a part of a header. -/
def andThen (h : Header) (f : List UInt8 → Header) : Header :=
  match h with
  | rest bs => f bs
  | cut => cut
  | corrupt => corrupt

/-- Skips so many bytes. -/
def skip (count : Nat) (bs : List UInt8) : Header :=
  if bs.length < count then cut else rest (bs.drop count)

/-- Skips a part that begins with its length. -/
def skipSized : List UInt8 → Header
  | a :: b :: bs => skip (little [a, b]) bs
  | _ => cut

/-- Skips a part that ends with a zero. -/
def skipText (bs : List UInt8) : Header :=
  match bs.dropWhile (· ≠ 0) with
  | _ :: after => rest after
  | [] => cut

/-- Skips a part if a flag says that it is there. -/
def skipIf (flag : Bool) (skip : List UInt8 → Header) (bs : List UInt8) : Header :=
  if flag then skip bs else rest bs

/-- Compares the checksum of the header `whole` with the one that follows it. -/
def check (whole : List UInt8) : List UInt8 → Header
  | a :: b :: bs =>
    let header := whole.take (whole.length - (bs.length + 2))
    if crc32 header % 65536 = little [a, b] then rest bs else corrupt
  | _ => cut

/-- The header of a file: two bytes that mark it, the method, flags, six bytes on its making, and
what the flags announce. -/
def ofFile : List UInt8 → Header
  | 0x1F :: 0x8B :: 0x08 :: flags :: bs =>
    let whole := 0x1F :: 0x8B :: 0x08 :: flags :: bs
    let flag (n : Nat) : Bool := flags.toNat.testBit n
    if flags &&& 0xE0 ≠ 0 then corrupt
    else
      (skip 6 bs).andThen (skipIf (flag 2) skipSized)
        |>.andThen (skipIf (flag 3) skipText)
        |>.andThen (skipIf (flag 4) skipText)
        |>.andThen (skipIf (flag 1) (check whole))
  | [0x1F, 0x8B] => cut
  | [0x1F, 0x8B, _] => cut
  | _ :: _ :: _ => corrupt
  | _ => cut

/-- The header of a stream: the method and the size of its window, and flags that make the first two
bytes together a multiple of 31. -/
def ofStream : List UInt8 → Header
  | a :: b :: bs =>
    if (a.toNat * 256 + b.toNat) % 31 ≠ 0 ∨ a.toNat % 16 ≠ 8 ∨ 7 < a.toNat / 16 then corrupt
    else if b.toNat.testBit 5 then corrupt
    else rest bs
  | _ => cut

end Header

/-- Is a checksum there and wrong? -/
def isWrong (given : List UInt8) (size expected : Nat) : Bool :=
  given.length = size && little given ≠ expected

/-- The contents of a compressed file. Its checksum and its size follow them, lowest byte first. -/
def expandFile? (bs : List UInt8) : Option (List UInt8) :=
  match Header.ofFile bs with
  | .corrupt => none
  | .cut => some []
  | .rest body =>
    match inflate body with
    | .corrupt => none
    | .cut output => some output.toList
    | .complete output rest =>
      let contents := output.toList
      if isWrong (rest.take 4) 4 (crc32 contents) ||
          isWrong ((rest.drop 4).take 4) 4 (contents.length % 0x100000000) then none
      else some contents

/-- The contents of a compressed stream. Its checksum follows them, highest byte first. -/
def expandStream? (bs : List UInt8) : Option (List UInt8) :=
  match Header.ofStream bs with
  | .corrupt => none
  | .cut => some []
  | .rest body =>
    match inflate body with
    | .corrupt => none
    | .cut output => some output.toList
    | .complete output rest =>
      let contents := output.toList
      if isWrong (rest.take 4).reverse 4 (adler32 contents) then none else some contents

/-- The contents of compressed bytes without header and checksum. -/
def expandBare? (bs : List UInt8) : Option (List UInt8) :=
  match inflate bs with
  | .corrupt => none
  | .cut output => some output.toList
  | .complete output _ => some output.toList

end SourceAudit.Compression
